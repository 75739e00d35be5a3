import TagDispatch.Text.CaseIgnorable
import TagDispatch.Text.Cased
import TagDispatch.Text.LowerCase
import TagDispatch.Text.UpperCase

/-!
# Upper and lower case of texts

Letters change case by table, some into several characters. A capital sigma at the end of a word has
a lower form of its own.
-/

namespace TagDispatch.Text

/-- The other case of a letter outside ASCII: a special form, a letter at a distance, or itself. -/
def caseForm (special : List (Nat × List Nat)) (runs : List CaseRun) (c : Char) : List Char :=
  match special.lookup c.toNat with
  | some codes => codes.map Char.ofNat
  | none => [((CaseRun.lookup runs c.toNat).map Char.ofNat).getD c]

/-- The upper form of a character. -/
def upperForm (c : Char) : List Char :=
  if c.toNat < 0x80 then [c.toUpper] else caseForm upperSpecial upperRuns c

/-- The lower form of a character away from the end of a word. -/
def lowerForm (c : Char) : List Char :=
  if c.toNat < 0x80 then [c.toLower] else caseForm lowerSpecial lowerRuns c

/-- Whether the first character that a sigma does not look through is a cased letter. -/
def meetsCased (cs : List Char) : Bool :=
  match cs.dropWhile caseIgnorableRanges.contains with
  | [] => false
  | c :: _ => casedRanges.contains c

/-- A text in upper case. -/
def toUpper (cs : List Char) : List Char := cs.flatMap upperForm

/-- A text in lower case, after the characters `before` in reverse order. -/
def toLowerAfter (before : List Char) : List Char → List Char
  | [] => []
  | c :: rest =>
    let form :=
      if c = 'Σ' then
        if meetsCased before && !meetsCased rest then ['ς'] else ['σ']
      else lowerForm c
    form ++ toLowerAfter (c :: before) rest

/-- A text in lower case. -/
def toLower (cs : List Char) : List Char := toLowerAfter [] cs

end TagDispatch.Text
