import TagDispatch.Act
import TagDispatch.Tag

/-!
# Patterns

A pattern names a tag and gives access to the payload under it: `peek?` looks at the payload of a
value that is kept, `take` gives the payload up for the value. Nothing forces the tag and the two
accesses to agree; `Pattern.Lawful` says when they do, and a table that finds an entry by its tag
but cannot take the payload ends in a defect.

Patterns are taken to be free of effects. The tag is a value and the accesses are functions, not
computations: they write nothing, change no state and do not panic, and the same holds for the tag
of a value. So it makes no difference how often a pattern is asked, or when. A primary branch asks
for the payload alone, a further branch for the tags of its pattern and its value as well, and only
because this has no effect can one stand for the other where a conditional is cut. Effects are left
to handlers, guards, bodies and the code that builds branches.
-/

namespace TagDispatch

/-- Access to the payload `P` of the values `V` that carry one tag. None of the fields has an effect
of its own. -/
structure Pattern (V T P : Type) where
  tag : T
  /-- The payload, if the value holds it. -/
  peek? : V → Option P
  /-- The payload for the value, or the value back. -/
  take : V → Except V P

variable {V T P Q ε σ α : Type}

/-- The defect of entering a branch for one tag with a value of another. -/
def wrongBranch [Tag T] (expected found : T) : Act ε σ α :=
  .defect (.branchKeyMismatch (Tag.name expected) (Tag.name found))

namespace Pattern

/-- The same pattern with its payload converted. -/
def map (f : P → Q) (p : Pattern V T P) : Pattern V T Q where
  tag := p.tag
  peek? v := (p.peek? v).map f
  take v := (p.take v).map f

/-- A pattern is lawful at a value if the value holds the payload exactly when it carries the tag,
and then `take` gives the payload that `peek?` shows, and else gives the value back. -/
structure LawfulAt [Tagged V T] (p : Pattern V T P) (v : V) : Prop where
  peek?_isSome_iff : (p.peek? v).isSome ↔ TagDispatch.tag v = p.tag
  take_eq : p.take v = (p.peek? v).elim (.error v) .ok

/-- A pattern is lawful if it is so at every value. -/
def Lawful [Tagged V T] (p : Pattern V T P) : Prop := ∀ v, p.LawfulAt v

/-- A pattern gives every value back that it cannot take. -/
def GivesBack (p : Pattern V T P) : Prop := ∀ v v', p.take v = .error v' → v' = v

/-- Whether a value carries the tag of the pattern. -/
def fits [Tagged V T] [DecidableEq T] (p : Pattern V T P) (v : V) : Bool :=
  TagDispatch.tag v = p.tag

/-- Shows the payload to `f`, if the value holds one, and keeps the value. -/
def observe (p : Pattern V T P) (v : V) (f : P → Act ε σ Unit) : Act ε σ V :=
  match p.peek? v with
  | some x => do
    f x
    pure v
  | none => pure v

/-- The payload for a value that must hold it; a value that does not is a defect. -/
def demand [Tagged V T] [Tag T] (p : Pattern V T P) (v : V) : Act ε σ P :=
  match p.take v with
  | .ok x => pure x
  | .error v' => wrongBranch p.tag (TagDispatch.tag v')

end Pattern

end TagDispatch
