import TagDispatch.PartialTable
import TagDispatch.Script.Report
import TagDispatch.Table

/-!
# Sessions

A session keeps what earlier steps of a script have named: values, patterns, chains and tables, each
under names of their own, and the counters. What a step uses up is removed.
-/

namespace TagDispatch.Script

/-- Named things; a name stands at most once. -/
abbrev Store (α : Type) := List (String × α)

namespace Store

variable {α : Type}

/-- The thing with a name. -/
def get? (store : Store α) (name : String) : Option α := store.lookup name

/-- Removes the thing with a name. -/
def erase (store : Store α) (name : String) : Store α := store.filter fun item => item.1 != name

/-- Names a thing, in place of what had the name before. -/
def put (store : Store α) (name : String) (a : α) : Store α := (name, a) :: store.erase name

end Store

/-- A pattern whose payload is given as data, and its dump if it has one. -/
structure NamedPattern (V T : Type) where
  pattern : Pattern V T Datum
  dump : Option Dump

/-- A chain of either kind. -/
inductive AnyChain (V T : Type) where
  | closed (c : ClosedChain Trace Cells V T Datum)
  | opened (c : OpenChain Trace Cells V T Datum)

/-- A table of either kind. -/
inductive AnyTable (V T : Type) where
  | exhaustive (t : Table Trace Cells V T Datum)
  | lenient (t : PartialTable Trace Cells V T Datum)

/-- What has been named so far, and what the world of the script keeps beside it. -/
structure Session (V T W : Type) where
  values : Store V := []
  patterns : Store (NamedPattern V T) := []
  chains : Store (AnyChain V T) := []
  tables : Store (AnyTable V T) := []
  cells : Cells := []
  world : W

namespace Session

variable {V T W α : Type}

/-- The value with a name. -/
def value (s : Session V T W) (name : String) : Except Fault V :=
  (s.values.get? name).elim (.error (.noValue name)) .ok

/-- The pattern with a name, and its dump if it has one. -/
def namedPattern (s : Session V T W) (name : String) : Except Fault (NamedPattern V T) :=
  (s.patterns.get? name).elim (.error (.noPattern name)) .ok

/-- The pattern with a name. -/
def pattern (s : Session V T W) (name : String) : Except Fault (Pattern V T Datum) := do
  let p ← s.namedPattern name
  pure p.pattern

/-- The chain with a name. -/
def chain (s : Session V T W) (name : String) : Except Fault (AnyChain V T) :=
  (s.chains.get? name).elim (.error (.noChain name)) .ok

/-- The table with a name. -/
def table (s : Session V T W) (name : String) : Except Fault (AnyTable V T) :=
  (s.tables.get? name).elim (.error (.noTable name)) .ok

/-- The answer and the session after a run; `finish` says what becomes of a result. -/
def settle (s : Session V T W) (run : Run Trace Cells α)
    (finish : α → Session V T W → Report × Session V T W) : Answer × Session V T W :=
  let s := { s with cells := run.state }
  match run.ending with
  | .done a => (⟨.report (finish a s).1, run.log⟩, (finish a s).2)
  | .panicked text => (⟨.panicked text, run.log⟩, s)
  | .defective e => (⟨.defective e, run.log⟩, s)

/-- The answer to a step that runs no code. -/
def report (s : Session V T W) (r : Report) : Answer × Session V T W := (⟨.report r, []⟩, s)

end Session

end TagDispatch.Script
