/-!
# Codes of payload types

An open registry checks payload types while it runs, so it works with codes for them.
-/

namespace TagDispatch

/-- Codes of types: what each code stands for and how it is called in messages. -/
class TypeCode (C : Type) where
  Val : C → Type
  typeName : C → String
  /-- The code of the type of variants that carry nothing. -/
  unit : C

end TagDispatch
