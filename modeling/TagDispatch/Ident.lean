/-!
# Identifiers

An identifier may be written raw, with `r#` before it, so that a keyword can be a name. Both
spellings name the same thing.
-/

namespace TagDispatch

/-- An identifier and whether it is written raw. -/
structure Ident where
  text : String
  raw : Bool := false
deriving DecidableEq

/-- The identifier as it is written. -/
def Ident.spelling (i : Ident) : String := if i.raw then "r#" ++ i.text else i.text

end TagDispatch
