import TagDispatch.Pattern

/-!
# Conditionals

A conditional has a primary branch, further branches, and a completion. The first branch that fires
gives the result, and what comes after it is neither asked nor built: the further branches are a
list of computations, each of which builds one branch when its turn comes.
-/

namespace TagDispatch

variable {ε σ V T P R O : Type}

/-- A further branch, built but not yet tried. -/
inductive Branch (ε σ R : Type) where
  /-- Fires if a condition holds. -/
  | plain (holds : Bool) (body : Act ε σ R)
  /-- Fires if a payload was found. -/
  | bound (found : Bool) (body : Act ε σ R)
  /-- Fires if a payload was found and a guard accepts it. -/
  | guarded (found : Bool) (guard : Act ε σ Bool) (body : Act ε σ R)

/-- Runs `f` on the payload that a pattern finds; to run it without one is a defect. -/
def onPayload [Tagged V T] [Tag T] (v : V) (p : Pattern V T P) (f : P → Act ε σ R) : Act ε σ R :=
  match p.peek? v with
  | some x => f x
  | none => wrongBranch p.tag (tag v)

namespace Branch

/-- A branch that looks for the payload of a pattern. -/
def ofPattern [Tagged V T] [Tag T] (v : V) (p : Pattern V T P) (body : P → Act ε σ R) :
    Branch ε σ R :=
  .bound (p.peek? v).isSome (onPayload v p body)

/-- A branch that looks for the payload of a pattern and asks a guard about it. -/
def ofGuard [Tagged V T] [Tag T] (v : V) (p : Pattern V T P) (guard : P → Act ε σ Bool)
    (body : P → Act ε σ R) : Branch ε σ R :=
  .guarded (p.peek? v).isSome (onPayload v p guard) (onPayload v p body)

/-- Runs the body if the branch fires. -/
def attempt : Branch ε σ R → Act ε σ (Option R)
  | plain holds body => if holds then some <$> body else pure none
  | bound found body => if found then some <$> body else pure none
  | guarded found guard body =>
    if found then do
      if ← guard then some <$> body else pure none
    else pure none

/-- The body, whether or not the branch fires. -/
def body : Branch ε σ R → Act ε σ R
  | plain _ body => body
  | bound _ body => body
  | guarded _ _ body => body

/-- A branch is shown by its kind and whether its condition holds or its payload was found. -/
instance : Shown (Branch ε σ R) where
  dump
    | plain holds _ => .record "When" [("condition", .bool holds)] false
    | bound found _ => .record "Let" [("matched", .bool found)] false
    | guarded found _ _ => .record "GuardedLet" [("matched", .bool found)] false

/-- Builds and tries branches one after the other, up to the first that fires. -/
def first : List (Act ε σ (Branch ε σ R)) → Act ε σ (Option R)
  | [] => pure none
  | build :: rest => do
    let branch ← build
    match ← branch.attempt with
    | some r => pure (some r)
    | none => first rest

/-- Builds all branches before any is tried. -/
def buildAll : List (Act ε σ (Branch ε σ R)) → Act ε σ (List (Branch ε σ R))
  | [] => pure []
  | build :: rest => do
    let branch ← build
    let branches ← buildAll rest
    pure (branch :: branches)

/-- Branches that are built already. -/
def built (branches : List (Branch ε σ R)) : List (Act ε σ (Branch ε σ R)) := branches.map pure

end Branch

/-- What a conditional makes of the result of its branches, if one fired. -/
structure Completion (ε σ R O : Type) where
  complete : Option R → Act ε σ O

/-- Without an else a conditional may have no result. -/
def Completion.optional : Completion ε σ R (Option R) := ⟨pure⟩

/-- An else runs if no branch fired. -/
def Completion.orElse (f : Act ε σ R) : Completion ε σ R R :=
  ⟨fun
    | some r => pure r
    | none => f⟩

namespace Conditional

/-- Tries the further branches and completes the conditional. -/
def rest (branches : List (Act ε σ (Branch ε σ R))) (completion : Completion ε σ R O) :
    Act ε σ O := do
  let fired ← Branch.first branches
  completion.complete fired

/-- A conditional whose primary branch fires if a condition holds. -/
def plain (holds : Bool) (body : Act ε σ R) (branches : List (Act ε σ (Branch ε σ R)))
    (completion : Completion ε σ R O) : Act ε σ O :=
  if holds then do
    let r ← body
    completion.complete (some r)
  else rest branches completion

/-- A conditional whose primary branch looks for the payload of a pattern. -/
def bound (v : V) (p : Pattern V T P) (body : P → Act ε σ R)
    (branches : List (Act ε σ (Branch ε σ R))) (completion : Completion ε σ R O) : Act ε σ O :=
  match p.peek? v with
  | some x => do
    let r ← body x
    completion.complete (some r)
  | none => rest branches completion

/-- A conditional whose primary branch looks for the payload of a pattern and asks a guard. -/
def guarded (v : V) (p : Pattern V T P) (guard : P → Act ε σ Bool) (body : P → Act ε σ R)
    (branches : List (Act ε σ (Branch ε σ R))) (completion : Completion ε σ R O) : Act ε σ O :=
  match p.peek? v with
  | some x => do
    if ← guard x then
      let r ← body x
      completion.complete (some r)
    else rest branches completion
  | none => rest branches completion

end Conditional

end TagDispatch
