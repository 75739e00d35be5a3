import TagDispatch.Chain
import TagDispatch.Entries

/-!
# Exhaustive tables

A table dispatches a value to the handler registered for its tag and always answers: a tag without
an entry goes to the fallback, and without a fallback it is a defect. `Table.uncovered` finds such
tags ahead of time.
-/

namespace TagDispatch

/-- Handlers by tag for values `V`, all with results `R`, and perhaps a fallback. -/
structure Table (ε σ V T R : Type) where
  entries : Entries T (V → Act ε σ R) := {}
  fallback : Option (Act ε σ R) := none

namespace Table

variable {ε σ V T P R : Type}

/-- The table without entries. -/
def empty : Table ε σ V T R := {}

/-- Handles the tag of a pattern with a handler on its payload. -/
def handle [Tagged V T] [DecidableEq T] [Tag T] (table : Table ε σ V T R) (p : Pattern V T P)
    (handler : P → Act ε σ R) : Table ε σ V T R :=
  { table with
    entries := table.entries.insert p.tag fun v => do
      let x ← p.demand v
      handler x }

/-- Handles the tag of a chain with the chain. -/
def handleChain [DecidableEq T] (table : Table ε σ V T R) (c : ClosedChain ε σ V T R) :
    Table ε σ V T R :=
  { table with entries := table.entries.insert c.tag c.run }

/-- Sets what runs for tags without an entry. -/
def orElse (table : Table ε σ V T R) (f : Act ε σ R) : Table ε σ V T R :=
  { table with fallback := some f }

/-- The tags for which the table has nothing to run, with their order and repeats kept. -/
def uncovered [DecidableEq T] (table : Table ε σ V T R) (tags : List T) : List T :=
  if table.fallback.isSome then [] else tags.filter fun t => !table.entries.contains t

/-- Runs the handler of the value's tag, else the fallback. -/
def dispatch [Tagged V T] [DecidableEq T] [Tag T] (table : Table ε σ V T R) (v : V) : Act ε σ R :=
  match table.entries.find? (tag v) with
  | some handler => do
    Act.notice (.dispatch (Tag.name (tag v)))
    handler v
  | none =>
    match table.fallback with
    | some f => do
      Act.notice (.fallback (Tag.name (tag v)))
      f
    | none => .defect (.handlerKey (Tag.name (tag v)))

instance [Tag T] : Shown (Table ε σ V T R) :=
  ⟨fun table => tableDump "Table" table.entries.names table.fallback.isSome⟩

end Table

end TagDispatch
