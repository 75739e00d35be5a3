import TagDispatch.Text.Dump
import TagDispatch.Text.Quoted
import TagDispatch.TypeCode

/-!
# Payload types

The types of payload that schemas and sample registries are declared with: numbers of fixed width,
characters, texts, and tuples, lists and options of payloads. An owned text and a borrowed one are
different types with the same values.
-/

namespace TagDispatch

/-- A kind of whole number of fixed width. -/
inductive IntKind where
  | i8
  | i32
  | i64
  | u8
  | u16
  | u32
  | u64
deriving DecidableEq

namespace IntKind

/-- The least number of the kind. -/
def least : IntKind → Int
  | i8 => -0x80
  | i32 => -0x80000000
  | i64 => -0x8000000000000000
  | u8 | u16 | u32 | u64 => 0

/-- The greatest number of the kind. -/
def greatest : IntKind → Int
  | i8 => 0x7F
  | i32 => 0x7FFFFFFF
  | i64 => 0x7FFFFFFFFFFFFFFF
  | u8 => 0xFF
  | u16 => 0xFFFF
  | u32 => 0xFFFFFFFF
  | u64 => 0xFFFFFFFFFFFFFFFF

/-- Whether a number is of the kind. -/
def holds (k : IntKind) (n : Int) : Prop := k.least ≤ n ∧ n ≤ k.greatest

instance (k : IntKind) (n : Int) : Decidable (k.holds n) := inferInstanceAs (Decidable (_ ∧ _))

/-- The name of the kind. -/
def name : IntKind → String
  | i8 => "i8"
  | i32 => "i32"
  | i64 => "i64"
  | u8 => "u8"
  | u16 => "u16"
  | u32 => "u32"
  | u64 => "u64"

end IntKind

/-- A type of payload. -/
inductive PayloadType where
  | unit
  | bool
  | int (kind : IntKind)
  | char
  | ownedText
  | borrowedText
  | single (a : PayloadType)
  | pair (a b : PayloadType)
  | list (a : PayloadType)
  | option (a : PayloadType)
deriving DecidableEq

namespace PayloadType

/-- The payloads of a type. -/
def Val : PayloadType → Type
  | unit => Unit
  | bool => Bool
  | int k => { n : Int // k.holds n }
  | char => Char
  | ownedText => String
  | borrowedText => String
  | single a => a.Val
  | pair a b => a.Val × b.Val
  | list a => List a.Val
  | option a => Option a.Val

/-- The type as a declaration writes it. -/
def spelling : PayloadType → String
  | unit => "()"
  | bool => "bool"
  | int k => k.name
  | char => "char"
  | ownedText => "String"
  | borrowedText => "&str"
  | single a => "(" ++ a.spelling ++ ",)"
  | pair a b => "(" ++ a.spelling ++ ", " ++ b.spelling ++ ")"
  | list a => "Vec<" ++ a.spelling ++ ">"
  | option a => "Option<" ++ a.spelling ++ ">"

/-- The type as messages write it, library types with their whole path. -/
def typeName : PayloadType → String
  | unit => "()"
  | bool => "bool"
  | int k => k.name
  | char => "char"
  | ownedText => "alloc::string::String"
  | borrowedText => "&str"
  | single a => "(" ++ a.typeName ++ ",)"
  | pair a b => "(" ++ a.typeName ++ ", " ++ b.typeName ++ ")"
  | list a => "alloc::vec::Vec<" ++ a.typeName ++ ">"
  | option a => "core::option::Option<" ++ a.typeName ++ ">"

instance : TypeCode PayloadType where
  Val := Val
  typeName := typeName
  unit := unit

/-- The tree of a payload. -/
def dump : (t : PayloadType) → t.Val → Dump
  | unit, _ => .tuple "" []
  | bool, (b : Bool) => .bool b
  | int _, n => .atom (toString n.val)
  | char, (c : Char) => .atom (Text.quotedChar c)
  | ownedText, (s : String) => .atom (Text.quoted s)
  | borrowedText, (s : String) => .atom (Text.quoted s)
  | single a, x => .tuple "" [a.dump x]
  | pair a b, (x, y) => .tuple "" [a.dump x, b.dump y]
  | list a, (xs : List a.Val) => .list (xs.map a.dump)
  | option _, none => .tuple "None" []
  | option a, some x => .tuple "Some" [a.dump x]

end PayloadType

end TagDispatch
