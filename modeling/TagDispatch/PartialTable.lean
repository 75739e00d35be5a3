import TagDispatch.Chain
import TagDispatch.Entries

/-!
# Partial tables

A partial table may leave tags unhandled: a value whose tag has no entry, in a table without a
fallback, is answered by nothing, and so is a payload that an open chain lets through.
-/

namespace TagDispatch

/-- Handlers by tag for values `V`, each with or without a result `R`, and perhaps a fallback. -/
structure PartialTable (ε σ V T R : Type) where
  entries : Entries T (V → Act ε σ (Option R)) := {}
  fallback : Option (Act ε σ R) := none

namespace PartialTable

variable {ε σ V T P R : Type}

/-- The table without entries. -/
def empty : PartialTable ε σ V T R := {}

/-- Handles the tag of a pattern with a handler on its payload. -/
def handle [Tagged V T] [DecidableEq T] [Tag T] (table : PartialTable ε σ V T R)
    (p : Pattern V T P) (handler : P → Act ε σ R) : PartialTable ε σ V T R :=
  { table with
    entries := table.entries.insert p.tag fun v => do
      let x ← p.demand v
      let r ← handler x
      pure (some r) }

/-- Handles the tag of a chain with the chain. -/
def handleChain [DecidableEq T] (table : PartialTable ε σ V T R) (c : OpenChain ε σ V T R) :
    PartialTable ε σ V T R :=
  { table with entries := table.entries.insert c.tag c.run }

/-- Sets what runs for tags without an entry. -/
def orElse (table : PartialTable ε σ V T R) (f : Act ε σ R) : PartialTable ε σ V T R :=
  { table with fallback := some f }

/-- The tags without an entry, unless there is a fallback, with their order and repeats kept. -/
def uncovered [DecidableEq T] (table : PartialTable ε σ V T R) (tags : List T) : List T :=
  if table.fallback.isSome then [] else tags.filter fun t => !table.entries.contains t

/-- Runs the handler of the value's tag, else the fallback, else nothing. -/
def dispatch [Tagged V T] [DecidableEq T] [Tag T] (table : PartialTable ε σ V T R) (v : V) :
    Act ε σ (Option R) :=
  match table.entries.find? (tag v) with
  | some handler => do
    Act.notice (.dispatch (Tag.name (tag v)))
    handler v
  | none =>
    match table.fallback with
    | some f => do
      Act.notice (.fallback (Tag.name (tag v)))
      let r ← f
      pure (some r)
    | none => do
      Act.notice (.absent (Tag.name (tag v)))
      pure none

instance [Tag T] : Shown (PartialTable ε σ V T R) :=
  ⟨fun table => tableDump "PartialTable" table.entries.names table.fallback.isSome⟩

end PartialTable

end TagDispatch
