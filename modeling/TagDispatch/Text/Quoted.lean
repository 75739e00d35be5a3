import TagDispatch.Text.Extending
import TagDispatch.Text.Unprintable

/-!
# Quoted text

A text or a character between quotes, for reading by people: the enclosing quote, the backslash and
line breaks are escaped by a letter, and what would not show on its own is written by code point.
-/

namespace TagDispatch.Text

/-- Whether a character is printed over or beside the one before it. The two halfwidth sound marks
extend the cluster before them too, but they have a place of their own. -/
def combines (c : Char) : Bool :=
  extendingRanges.contains c && c != '\uFF9E' && c != '\uFF9F'

/-- Whether a character shows on its own: it has a printed form and does not combine with the
character before it. -/
def showsAlone (c : Char) : Bool :=
  if c.toNat < 0x80 then 0x20 ≤ c.toNat && c.toNat != 0x7F
  else !unprintableRanges.contains c && !combines c

/-- A character by its code point, in lower-case hexadecimal without padding. -/
def byCodePoint (c : Char) : List Char :=
  ['\\', 'u', '\x7b'] ++ Nat.toDigits 16 c.toNat ++ ['\x7d']

/-- One character of a quoted text; only the quote that encloses the text is escaped. -/
def escape (quote c : Char) : List Char :=
  if c = '\x00' then ['\\', '0']
  else if c = '\t' then ['\\', 't']
  else if c = '\n' then ['\\', 'n']
  else if c = '\r' then ['\\', 'r']
  else if c = '\\' then ['\\', '\\']
  else if c = quote then ['\\', c]
  else if showsAlone c then [c]
  else byCodePoint c

/-- Characters between two quotes of the given kind. -/
def enclose (quote : Char) (cs : List Char) : String :=
  String.ofList (quote :: cs.flatMap (escape quote) ++ [quote])

/-- A text between double quotes. -/
def quoted (s : String) : String := enclose '\x22' s.toList

/-- A character between single quotes. -/
def quotedChar (c : Char) : String := enclose '\x27' [c]

end TagDispatch.Text
