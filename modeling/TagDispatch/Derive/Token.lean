import TagDispatch.Derive.Literal
import TagDispatch.Text.Blank

/-!
# Tokens of declarations

The parts of a declaration are texts that are read as tokens: identifiers, lifetimes, literals,
single marks and delimiters. Blanks and comments stand between tokens, except for comments that
document what follows. A mark knows whether another mark follows it at once, so that `::` can be
told from two colons.

Derivations receive their declarations as tokens. It is the package `proc-macro2` that reads a text
as them, and `runs?` and `tokens?` follow it. Results about what a derivation makes of its tokens do
not depend on how these were read; those about items that are read rest on the laws of `ReadsRuns`.
-/

namespace TagDispatch.Derive

/-- A token. -/
inductive Token where
  | ident (i : Ident)
  | lifetime (i : Ident)
  /-- A text, by its value. -/
  | text (value : String)
  /-- Another literal, as it is written. -/
  | literal (written : String) (numeric : Bool)
  | mark (c : Char) (joint : Bool)
  | delimiter (c : Char)
  /-- A comment that documents what follows. -/
  | documentation
deriving DecidableEq

/-! ## Comments -/

/-- What follows a comment between marks. Such comments nest, and `depth` others are open. -/
def afterComment? : (depth : Nat) → List Char → Option (List Char)
  | _, [] => none
  | depth, '/' :: '*' :: rest => afterComment? (depth + 1) rest
  | 0, '*' :: '/' :: rest => some rest
  | depth + 1, '*' :: '/' :: rest => afterComment? depth rest
  | depth, _ :: rest => afterComment? depth rest

/-- Whether a comment is documentation: an exclamation mark follows its opening, or the second mark
of the opening once more and not twice. -/
def documents (second : Char) : List Char → Bool
  | [] => false
  | c :: rest =>
    c = '!' || (c = second && rest.head? != some second && rest.head? != some '/')

/-- What follows a comment and whether it is documentation, if a comment begins here. -/
def readComment? : List Char → Option (Bool × List Char)
  | '/' :: '/' :: rest => some (documents '/' rest, rest.dropWhile (· != '\n'))
  | '/' :: '*' :: rest => (afterComment? 0 rest).map fun after => (documents '*' rest, after)
  | _ => none

/-! ## Single tokens -/

/-- Whether a mark begins here; the opening of a comment is none. -/
def beginsMark : List Char → Bool
  | '/' :: '/' :: _ | '/' :: '*' :: _ => false
  | c :: _ => c ∈ "~!@#$%^&*-=+|;:,<.>/?'".toList
  | [] => false

/-- The characters that are delimiters. -/
def isDelimiter (c : Char) : Bool := c ∈ "()[]\x7b\x7d".toList

/-- The characters of `cs` that come before its tail `rest`. -/
def readBefore (cs rest : List Char) : String := String.ofList (cs.take (cs.length - rest.length))

/-- A literal that reaches from `cs` to `rest` and goes on with a suffix. -/
def literalUpTo (cs rest : List Char) : Token × List Char :=
  let rest := afterSuffix rest
  (.literal (readBefore cs rest) false, rest)

/-- Reads a text after its opening quote. -/
def readText? (cs : List Char) : Option (Token × List Char) :=
  (splitQuote? '\x22' cs).map fun (body, rest) =>
    (.text (String.ofList (unescape .outside body)), afterSuffix rest)

/-- Reads a raw text after its opening quote. -/
def readRawText? (signs : Nat) (cs : List Char) : Option (Token × List Char) :=
  (splitRawQuote? signs cs).map fun (body, rest) => (.text (String.ofList body), afterSuffix rest)

/-- Reads a literal that has letters before its opening quote, if there is one. -/
def readPrefixed? (cs : List Char) : Option (Token × List Char) :=
  let word := cs.takeWhile continuesIdent
  let rest := cs.dropWhile continuesIdent
  let signs := (rest.takeWhile (· = '#')).length
  match rest.drop signs with
  | '\x22' :: more =>
    if word = ['r'] then readRawText? signs more
    else if word = ['b', 'r'] || word = ['c', 'r'] then
      (splitRawQuote? signs more).map fun (_, after) => literalUpTo cs after
    else if signs = 0 && (word = ['b'] || word = ['c']) then
      (splitQuote? '\x22' more).map fun (_, after) => literalUpTo cs after
    else none
  | '\x27' :: more =>
    if signs = 0 && word = ['b'] then (afterCharacter? more).map (literalUpTo cs) else none
  | _ => none

/-- Reads an identifier, raw or plain. -/
def readIdent? (cs : List Char) : Option (Ident × List Char) :=
  let plain := (⟨String.ofList (cs.takeWhile continuesIdent), false⟩, cs.dropWhile continuesIdent)
  match cs with
  | 'r' :: '#' :: text =>
    if text.head?.any beginsIdent then
      let name := String.ofList (text.takeWhile continuesIdent)
      if name ∈ neverRaw then none else some (⟨name, true⟩, text.dropWhile continuesIdent)
    else some plain
  | c :: _ => if beginsIdent c then some plain else none
  | [] => none

/-- Reads what a single quote begins: a character or a lifetime. -/
def readSingleQuote? (rest : List Char) : Option (Token × List Char) :=
  match afterCharacter? rest with
  | some after => some (literalUpTo ('\x27' :: rest) after)
  | none => (readIdent? rest).map fun (i, after) => (.lifetime i, after)

/-- A group that stands for a fault found earlier; it counts as one literal. -/
def faultGroup : List Char := "(/*ERROR*/)".toList

/-- Reads the token that begins here. -/
def readToken? (cs : List Char) : Option (Token × List Char) :=
  match cs with
  | [] => none
  | c :: rest =>
    if faultGroup.isPrefixOf cs then
      some (.literal (String.ofList faultGroup) false, cs.drop faultGroup.length)
    else if isDelimiter c then some (.delimiter c, rest)
    else if c = '\x22' then readText? rest
    else if c = '\x27' then readSingleQuote? rest
    else if beginsMark cs then some (.mark c (beginsMark rest), rest)
    else if c.isDigit then
      some (.literal (readBefore cs (afterNumber cs)) true, afterNumber cs)
    else (readPrefixed? cs).or ((readIdent? cs).map fun (i, after) => (.ident i, after))

/-! ## Runs of tokens -/

/-- Reads at most `fuel` tokens, blanks and comments. Tokens with nothing between them form a run;
the first run is what the tokens before `cs` go on with. -/
def readRuns? : (fuel : Nat) → (cs : List Char) → Option (List (List Token))
  | _, [] => some [[]]
  | 0, _ => none
  | fuel + 1, c :: rest =>
    if Text.isBlank c then (readRuns? fuel rest).map ([] :: ·)
    else
      match readComment? (c :: rest) with
      | some (false, after) => (readRuns? fuel after).map ([] :: ·)
      | some (true, after) => (readRuns? fuel after).map fun runs => [] :: [.documentation] :: runs
      | none => do
        let (token, after) ← readToken? (c :: rest)
        match ← readRuns? fuel after with
        | [] => pure [[token]]
        | run :: runs => pure ((token :: run) :: runs)

/-- The delimiter that closes a group. -/
def closing : Char → Char
  | '(' => ')'
  | '[' => ']'
  | _ => '\x7d'

/-- Whether every group is closed in order; `expected` holds what is still to be closed. -/
def isBalanced (expected : List Char) : List Token → Bool
  | [] => expected.isEmpty
  | .delimiter c :: rest =>
    if c ∈ "([\x7b".toList then isBalanced (closing c :: expected) rest
    else
      match expected with
      | [] => false
      | d :: ds => c = d && isBalanced ds rest
  | _ :: rest => isBalanced expected rest

/-- The runs of tokens of a text in which every group is closed. -/
def runs? (text : String) : Option (List (List Token)) := do
  let runs ← readRuns? text.length text.toList
  if isBalanced [] runs.flatten then pure runs else none

/-- The tokens of a text in which every group is closed, as `proc-macro2` reads them. -/
def tokens? (text : String) : Option (List Token) := (runs? text).map List.flatten

/-! ## Words -/

/-- A token as a word; documentation is none. -/
def Token.spelling? : Token → Option String
  | ident i => some i.spelling
  | lifetime i => some ("'" ++ i.spelling)
  | text value => some ("\"" ++ value ++ "\"")
  | literal written _ => some written
  | mark c _ => some (String.ofList [c])
  | delimiter c => some (String.ofList [c])
  | documentation => none

/-- The words of tokens; the marks of a path, an arrow or a range make one word. -/
def spellings : List Token → List String
  | [] => []
  | .mark ':' true :: .mark ':' _ :: rest => "::" :: spellings rest
  | .mark '-' true :: .mark '>' _ :: rest => "->" :: spellings rest
  | .mark '=' true :: .mark '>' _ :: rest => "=>" :: spellings rest
  | .mark '.' true :: .mark '.' true :: .mark '.' _ :: rest => "..." :: spellings rest
  | .mark '.' true :: .mark '.' true :: .mark '=' _ :: rest => "..=" :: spellings rest
  | .mark '.' true :: .mark '.' _ :: rest => ".." :: spellings rest
  | token :: rest => token.spelling?.toList ++ spellings rest

/-- The words of a run of tokens; marks that stand by themselves make one word. -/
def runSpellings (run : List Token) : List String :=
  let isMark : Token → Bool
    | .mark _ _ => true
    | _ => false
  if run.all isMark && !run.isEmpty then [String.join (run.filterMap Token.spelling?)]
  else spellings run

end TagDispatch.Derive
