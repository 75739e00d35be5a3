/-!
# Data

The data that scripts compute with: whole numbers and texts, lists, and records with their members
sorted by name.
-/

namespace TagDispatch.Script

/-- A piece of data. -/
inductive Datum where
  | null
  | bool (b : Bool)
  | int (n : Int)
  | text (s : String)
  | list (elements : List Datum)
  | record (members : List (String × Datum))

namespace Datum

mutual

/-- Whether two pieces of data are equal. -/
def same : Datum → Datum → Bool
  | null, null => true
  | bool a, bool b => a == b
  | int a, int b => a == b
  | text a, text b => a == b
  | list a, list b => sameAll a b
  | record a, record b => sameMembers a b
  | _, _ => false

/-- Whether two lists are equal element by element. -/
def sameAll : List Datum → List Datum → Bool
  | [], [] => true
  | a :: as, b :: bs => same a b && sameAll as bs
  | _, _ => false

/-- Whether two lists of members are equal, names and data. -/
def sameMembers : List (String × Datum) → List (String × Datum) → Bool
  | [], [] => true
  | (m, a) :: as, (n, b) :: bs => m == n && same a b && sameMembers as bs
  | _, _ => false

end

/-- Whether a piece of data is the yes of a guard: nothing but `true` is. -/
def isTrue : Datum → Bool
  | bool b => b
  | _ => false

/-- A number of 64 bits with sign; any other data counts as zero. -/
def toInt64 : Datum → Int
  | int n => if -0x8000000000000000 ≤ n ∧ n ≤ 0x7FFFFFFFFFFFFFFF then n else 0
  | _ => 0

/-- The number of characters of a text or of elements of a list. -/
def length : Datum → Nat
  | text s => s.length
  | list elements => elements.length
  | _ => 0

/-- An element of a list; null if there is none. -/
def element (n : Nat) : Datum → Datum
  | list elements => elements.getD n null
  | _ => null

end Datum

end TagDispatch.Script
