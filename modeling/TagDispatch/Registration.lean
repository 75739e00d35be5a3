import TagDispatch.PartialTable
import TagDispatch.Table

/-!
# Registrations

The calls that build a table, in the order in which they are made. A table of either kind is what
its registrations make of the empty table.
-/

namespace TagDispatch

variable {ε σ V T P R : Type} [Tagged V T] [DecidableEq T] [Tag T]

/-- A call that registers something in an exhaustive table. -/
inductive Registration (ε σ V T R : Type) : Type 1 where
  | handle {P : Type} (p : Pattern V T P) (handler : P → Act ε σ R)
  | chain {P : Type} (cs : Cases ε σ V T P R) (default : P → Act ε σ R)
  | orElse (f : Act ε σ R)

/-- A call that registers something in a partial table; a chain may be open, or closed and then used
as an open one. -/
inductive PartialRegistration (ε σ V T R : Type) : Type 1 where
  | handle {P : Type} (p : Pattern V T P) (handler : P → Act ε σ R)
  | openChain {P : Type} (cs : Cases ε σ V T P R)
  | closedChain {P : Type} (cs : Cases ε σ V T P R) (default : P → Act ε σ R)
  | orElse (f : Act ε σ R)

/-- The tag that a call registers something for; a fallback is for no tag. -/
def Registration.tag? : Registration ε σ V T R → Option T
  | handle p _ => some p.tag
  | chain cs _ => some cs.pattern.tag
  | orElse _ => none

/-- The tag that a call registers something for; a fallback is for no tag. -/
def PartialRegistration.tag? : PartialRegistration ε σ V T R → Option T
  | handle p _ => some p.tag
  | openChain cs => some cs.pattern.tag
  | closedChain cs _ => some cs.pattern.tag
  | orElse _ => none

/-- The table after one more call. -/
def Table.register (table : Table ε σ V T R) : Registration ε σ V T R → Table ε σ V T R
  | .handle p handler => table.handle p handler
  | .chain cs default => table.handleChain (cs.close default)
  | .orElse f => table.orElse f

/-- The table after one more call. -/
def PartialTable.register (table : PartialTable ε σ V T R) :
    PartialRegistration ε σ V T R → PartialTable ε σ V T R
  | .handle p handler => table.handle p handler
  | .openChain cs => table.handleChain cs.leaveOpen
  | .closedChain cs default => table.handleChain (cs.close default).toOpen
  | .orElse f => table.orElse f

/-- The table that calls build from the empty one. -/
def Table.ofRegistrations (calls : List (Registration ε σ V T R)) : Table ε σ V T R :=
  calls.foldl Table.register .empty

/-- The table that calls build from the empty one. -/
def PartialTable.ofRegistrations (calls : List (PartialRegistration ε σ V T R)) :
    PartialTable ε σ V T R :=
  calls.foldl PartialTable.register .empty

end TagDispatch
