import TagDispatch.PayloadType
import TagDispatch.Script.Datum

/-!
# Payloads as data

Payloads enter and leave a script as data: tuples and lists of payloads are lists, a character is a
text of length one, and an option is null or a record with the one member `some`.
-/

namespace TagDispatch.PayloadType

open Script

/-- The data of a payload. -/
def toDatum : (t : PayloadType) → t.Val → Datum
  | unit, _ => .null
  | bool, (b : Bool) => .bool b
  | int _, n => .int n.val
  | char, (c : Char) => .text (String.ofList [c])
  | ownedText, (s : String) => .text s
  | borrowedText, (s : String) => .text s
  | single a, x => .list [a.toDatum x]
  | pair a b, (x, y) => .list [a.toDatum x, b.toDatum y]
  | list a, (xs : List a.Val) => .list (xs.map a.toDatum)
  | option _, none => .null
  | option a, some x => .record [("some", a.toDatum x)]

/-- The payload of a type that the data stands for. -/
def ofDatum? : (t : PayloadType) → Datum → Option t.Val
  | unit, .null => some ()
  | bool, .bool b => some b
  | int k, .int n => if h : k.holds n then some ⟨n, h⟩ else none
  | char, .text s =>
    match s.toList with
    | [c] => some c
    | _ => none
  | ownedText, .text s => some s
  | borrowedText, .text s => some s
  | single a, .list [d] => a.ofDatum? d
  | pair a b, .list [d, e] => do
    let x ← a.ofDatum? d
    let y ← b.ofDatum? e
    pure (x, y)
  | list a, .list ds => ds.mapM a.ofDatum?
  | option _, .null => some none
  | option a, .record [("some", d)] => (a.ofDatum? d).map some
  | _, _ => none

end TagDispatch.PayloadType
