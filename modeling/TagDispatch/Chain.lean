import TagDispatch.Pattern

/-!
# Guard chains

A chain is the handler of one tag: it takes the payload and tries guarded cases in order. A closed
chain ends in a default and always answers, an open one may let the payload through.
-/

namespace TagDispatch

variable {ε σ V T P R : Type}

/-- A handler behind a guard. -/
structure Case (ε σ P R : Type) where
  guard : P → Act ε σ Bool
  handler : P → Act ε σ R

/-- Runs the first case whose guard accepts, else the default. -/
def runCases (default : P → Act ε σ R) (x : P) : List (Case ε σ P R) → Act ε σ R
  | [] => default x
  | c :: rest => do
    if ← c.guard x then c.handler x
    else runCases default x rest

/-- Runs the first case whose guard accepts, if there is one. -/
def runCases? (x : P) : List (Case ε σ P R) → Act ε σ (Option R)
  | [] => pure none
  | c :: rest => do
    if ← c.guard x then
      let r ← c.handler x
      pure (some r)
    else runCases? x rest

/-- Guarded cases for the payload of a pattern. -/
structure Cases (ε σ V T P R : Type) where
  pattern : Pattern V T P
  cases : List (Case ε σ P R) := []

/-- A chain that always answers. -/
structure ClosedChain (ε σ V T R : Type) where
  tag : T
  run : V → Act ε σ R

/-- A chain that may let the payload through. -/
structure OpenChain (ε σ V T R : Type) where
  tag : T
  run : V → Act ε σ (Option R)

namespace Cases

/-- Adds a case after the others. -/
def add (cs : Cases ε σ V T P R) (guard : P → Act ε σ Bool) (handler : P → Act ε σ R) :
    Cases ε σ V T P R :=
  { cs with cases := cs.cases ++ [⟨guard, handler⟩] }

/-- Closes the chain with a default for the payloads that no guard accepts. -/
def close [Tagged V T] [Tag T] (cs : Cases ε σ V T P R) (default : P → Act ε σ R) :
    ClosedChain ε σ V T R where
  tag := cs.pattern.tag
  run v := do
    let x ← cs.pattern.demand v
    runCases default x cs.cases

/-- Leaves the chain open. -/
def leaveOpen [Tagged V T] [Tag T] (cs : Cases ε σ V T P R) : OpenChain ε σ V T R where
  tag := cs.pattern.tag
  run v := do
    let x ← cs.pattern.demand v
    runCases? x cs.cases

end Cases

/-- A closed chain where an open one is accepted. -/
def ClosedChain.toOpen (c : ClosedChain ε σ V T R) : OpenChain ε σ V T R where
  tag := c.tag
  run v := do
    let r ← c.run v
    pure (some r)

/-- A closed chain is shown by the name of its tag. -/
instance [Tag T] : Shown (ClosedChain ε σ V T R) :=
  ⟨fun c => .tuple "GuardChain" [dump (Tag.name c.tag)]⟩

/-- An open chain is shown by the name of its tag. -/
instance [Tag T] : Shown (OpenChain ε σ V T R) :=
  ⟨fun c => .tuple "PartialChain" [dump (Tag.name c.tag)]⟩

end TagDispatch
