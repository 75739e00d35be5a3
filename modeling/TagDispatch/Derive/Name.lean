import TagDispatch.Ident
import TagDispatch.Text.IdentRest
import TagDispatch.Text.IdentStart

/-!
# Names in declarations

Which texts are identifiers, which words are reserved, and which identifiers may be written raw. A
name is what the package `syn` reads as one.
-/

namespace TagDispatch.Derive

/-- Whether a character may begin an identifier. -/
def beginsIdent (c : Char) : Bool :=
  c = '_' || if c.toNat < 0x80 then c.isAlpha else Text.identStartRanges.contains c

/-- Whether a character may continue an identifier. -/
def continuesIdent (c : Char) : Bool :=
  c = '_' || if c.toNat < 0x80 then c.isAlphanum
    else Text.identStartRanges.contains c || Text.identRestRanges.contains c

/-- Whether characters have the form of an identifier. -/
def isIdentText : List Char → Bool
  | [] => false
  | c :: rest => beginsIdent c && rest.all continuesIdent

/-- The reserved words. -/
def keywords : List String :=
  ["abstract", "as", "async", "await", "become", "box", "break", "const", "continue", "crate", "do",
    "dyn", "else", "enum", "extern", "false", "final", "fn", "for", "if", "impl", "in", "let",
    "loop", "macro", "match", "mod", "move", "mut", "override", "priv", "pub", "ref", "return",
    "Self", "self", "static", "struct", "super", "trait", "true", "try", "type", "typeof", "unsafe",
    "unsized", "use", "virtual", "where", "while", "yield"]

/-- The words that cannot be written raw. -/
def neverRaw : List String := ["_", "super", "self", "Self", "crate"]

/-- Whether a word cannot be a name as it is written. -/
def isReserved (i : Ident) : Bool := !i.raw && (i.text = "_" || i.text ∈ keywords)

/-- Reads a spelling, raw or plain. -/
def identOfSpelling (spelling : String) : Ident :=
  match spelling.toList with
  | 'r' :: '#' :: text => ⟨String.ofList text, true⟩
  | _ => ⟨spelling, false⟩

/-- Reads the spelling of something that can be a name. -/
def nameOfSpelling? (spelling : String) : Option Ident :=
  let i := identOfSpelling spelling
  if isIdentText i.text.toList && !isReserved i && !(i.raw && i.text ∈ neverRaw) then some i
  else none

end TagDispatch.Derive
