import TagDispatch.Derive.Name

/-!
# Literals

Where the literals of a declaration end, and the values of texts. A text is written between quotes
with escapes, or raw between quotes and number signs with nothing escaped. Literals are those that
the package `proc-macro2` reads, and values those that `syn` gives to texts.
-/

namespace TagDispatch.Derive

/-! ## Quotes -/

/-- Splits after the quote that closes a text or character; a backslash protects what follows it. -/
def splitQuote? (quote : Char) : List Char → Option (List Char × List Char)
  | [] => none
  | '\\' :: c :: rest =>
    (splitQuote? quote rest).map fun (body, after) => ('\\' :: c :: body, after)
  | c :: rest =>
    if c = quote then some ([], rest)
    else (splitQuote? quote rest).map fun (body, after) => (c :: body, after)

/-- Splits after the quote and number signs that close a raw text. -/
def splitRawQuote? (signs : Nat) : List Char → Option (List Char × List Char)
  | [] => none
  | c :: rest =>
    if c = '\x22' && (rest.take signs).length = signs && (rest.take signs).all (· = '#') then
      some ([], rest.drop signs)
    else (splitRawQuote? signs rest).map fun (body, after) => (c :: body, after)

/-- What follows a character and its closing quote. -/
def afterCharacter? : List Char → Option (List Char)
  | '\\' :: rest => (splitQuote? '\x27' ('\\' :: rest)).map (·.2)
  | _ :: '\x27' :: rest => some rest
  | _ => none

/-- What follows the letters of a suffix, if there is one. -/
def afterSuffix (cs : List Char) : List Char :=
  if cs.head?.any beginsIdent then cs.dropWhile continuesIdent else cs

/-! ## Values of texts -/

/-- The value of a hexadecimal digit. -/
def hexValue (c : Char) : Nat :=
  if c.isDigit then c.toNat - '0'.toNat else c.toLower.toNat - 'a'.toNat + 10

/-- How far an escape has been read. -/
inductive EscapeState where
  | outside
  | afterBackslash
  | firstDigit
  | secondDigit (high : Nat)
  | codePoint (value : Nat)
  /-- At the beginning of a continued line, whose blanks are dropped. -/
  | continuedLine

/-- The characters that a text with escapes stands for. -/
def unescape : EscapeState → List Char → List Char
  | _, [] => []
  | .outside, c :: rest =>
    if c = '\\' then unescape .afterBackslash rest
    else if c = '\r' then unescape .outside rest
    else c :: unescape .outside rest
  | .afterBackslash, c :: rest =>
    match c with
    | 'n' => '\n' :: unescape .outside rest
    | 'r' => '\r' :: unescape .outside rest
    | 't' => '\t' :: unescape .outside rest
    | '0' => '\x00' :: unescape .outside rest
    | 'x' => unescape .firstDigit rest
    | 'u' => unescape (.codePoint 0) rest
    | '\n' | '\r' => unescape .continuedLine rest
    | c => c :: unescape .outside rest
  | .firstDigit, c :: rest => unescape (.secondDigit (hexValue c)) rest
  | .secondDigit high, c :: rest =>
    Char.ofNat (0x10 * high + hexValue c) :: unescape .outside rest
  | .codePoint value, c :: rest =>
    if c = '\x7d' then Char.ofNat value :: unescape .outside rest
    else if c = '\x7b' || c = '_' then unescape (.codePoint value) rest
    else unescape (.codePoint (0x10 * value + hexValue c)) rest
  | .continuedLine, c :: rest =>
    if c ∈ [' ', '\t', '\n', '\r'] then unescape .continuedLine rest
    else if c = '\\' then unescape .afterBackslash rest
    else c :: unescape .outside rest

/-! ## Numbers -/

/-- What follows digits and the underscores among them. -/
def afterDigits (cs : List Char) : List Char := cs.dropWhile fun c => c.isDigit || c = '_'

/-- What follows an exponent, if one with a digit begins here. -/
def afterExponent (cs : List Char) : List Char :=
  match cs with
  | e :: rest =>
    if e = 'e' || e = 'E' then
      let digits :=
        match rest.dropWhile (· = '_') with
        | '+' :: more => more.dropWhile (· = '_')
        | '-' :: more => more.dropWhile (· = '_')
        | more => more
      if digits.head?.any Char.isDigit then afterDigits digits else cs
    else cs
  | [] => []

/-- What follows a number: its digits, a fraction unless the point belongs to what follows, an
exponent, and letters, which are digits of another base or a suffix. -/
def afterNumber (cs : List Char) : List Char :=
  let whole := afterDigits cs
  let rest :=
    match whole with
    | '.' :: more => if more.head?.any fun c => c = '.' || beginsIdent c then whole
      else afterDigits more
    | _ => whole
  (afterExponent rest).dropWhile continuesIdent

end TagDispatch.Derive
