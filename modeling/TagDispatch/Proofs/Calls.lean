import Mathlib.Data.List.Induction
import TagDispatch.Proofs.Code
import TagDispatch.Registration

/-!
# The calls behind a table

A table is read here through the calls that built it. Of the calls for one tag only the last counts,
and so does of the calls that set a fallback: `Table.find?_ofRegistrations` and
`Table.fallback_ofRegistrations` find exactly those two in the finished table, whatever was
replaced on the way.

A call whose pattern takes the value is executed: `Registration.Executes` names the code that is
then left to run on the payload.
-/

namespace TagDispatch

universe u w

variable {ε σ V T P R : Type}

/-! ## The last call for a tag -/

section LastCall

variable {A : Type u} {B : Type w} {tag? : A → Option T} {calls : List A} {call : A} {t : T}
variable [DecidableEq T]

/-- The last of some calls that registers something for the tag. -/
def lastCall (tag? : A → Option T) (calls : List A) (t : T) : Option A :=
  calls.findRev? fun call => tag? call = some t

theorem lastCall_append_singleton :
    lastCall tag? (calls ++ [call]) t =
      if tag? call = some t then some call else lastCall tag? calls t := by
  unfold lastCall
  rw [List.findRev?_eq_find?_reverse, List.findRev?_eq_find?_reverse, List.reverse_append,
    List.reverse_singleton, List.singleton_append, List.find?_cons]
  by_cases h : tag? call = some t <;> simp [h]

theorem lastCall_eq_none_iff : lastCall tag? calls t = none ↔ ∀ c ∈ calls, tag? c ≠ some t := by
  simp [lastCall]

theorem mem_of_lastCall (h : lastCall tag? calls t = some call) : call ∈ calls := by
  rw [lastCall, List.findRev?_eq_find?_reverse] at h
  exact List.mem_reverse.mp (List.mem_of_find?_eq_some h)

theorem tag?_of_lastCall (h : lastCall tag? calls t = some call) : tag? call = some t := by
  rw [lastCall, List.findRev?_eq_find?_reverse] at h
  simpa using List.find?_some h

/-- The last call for a tag is a call for it that no other call for it follows. -/
theorem lastCall_eq_some_iff :
    lastCall tag? calls t = some call ↔
      tag? call = some t ∧
        ∃ earlier later, calls = earlier ++ call :: later ∧ ∀ c ∈ later, tag? c ≠ some t := by
  rw [lastCall, List.findRev?_eq_find?_reverse, List.find?_eq_some_iff_append]
  constructor
  · rintro ⟨ht, later, earlier, heq, hlater⟩
    refine ⟨by simpa using ht, earlier.reverse, later.reverse, ?_, fun c hc => ?_⟩
    · rw [List.reverse_eq_iff] at heq
      simpa using heq
    · simpa using hlater c (List.mem_reverse.mp hc)
  · rintro ⟨ht, earlier, later, rfl, hlater⟩
    refine ⟨by simpa using ht, later.reverse, earlier.reverse, by simp, fun c hc => ?_⟩
    simpa using hlater c (List.mem_reverse.mp hc)

/-- Converting the calls without touching their tags converts the last call. -/
theorem lastCall_map {f : A → B} {tag?' : B → Option T} (hf : ∀ c, tag?' (f c) = tag? c) :
    lastCall tag?' (calls.map f) t = (lastCall tag? calls t).map f := by
  induction calls using List.reverseRecOn with
  | nil => rfl
  | append_singleton calls c ih =>
    rw [List.map_append, List.map_singleton, lastCall_append_singleton, lastCall_append_singleton,
      hf, ih]
    split <;> rfl

omit [DecidableEq T] in
/-- A call behind others sets the fallback, if it sets one. -/
theorem findSomeRev?_append_singleton (f : A → Option B) (calls : List A) (call : A) :
    (calls ++ [call]).findSomeRev? f = (f call).or (calls.findSomeRev? f) := by
  rw [List.findSomeRev?_eq_findSome?_reverse, List.findSomeRev?_eq_findSome?_reverse,
    List.reverse_append, List.reverse_singleton, List.singleton_append, List.findSome?_cons]
  cases f call <;> rfl

omit [DecidableEq T] in
/-- Converting the calls and with them what they set converts what the last call sets. -/
theorem findSomeRev?_map {A' B' : Type*} {f : A → A'} {g : A → Option B} {g' : A' → Option B'}
    {h : B → B'} (hf : ∀ c, g' (f c) = (g c).map h) :
    (calls.map f).findSomeRev? g' = (calls.findSomeRev? g).map h := by
  rw [List.findSomeRev?_eq_findSome?_reverse, List.findSomeRev?_eq_findSome?_reverse,
    ← List.map_reverse, List.findSome?_map, List.map_findSome?]
  exact congrArg (calls.reverse.findSome? ·) (funext hf)

omit [DecidableEq T] in
/-- What the last call sets is set by one of the calls. -/
theorem exists_mem_of_findSomeRev? {f : A → Option B} {b : B} (h : calls.findSomeRev? f = some b) :
    ∃ call ∈ calls, f call = some b := by
  rw [List.findSomeRev?_eq_findSome?_reverse] at h
  obtain ⟨call, hcall, hb⟩ := List.exists_of_findSome?_eq_some h
  exact ⟨call, List.mem_reverse.mp hcall, hb⟩

omit [DecidableEq T] in
theorem findSomeRev?_eq_none_iff {f : A → Option B} :
    calls.findSomeRev? f = none ↔ ∀ call ∈ calls, f call = none := by
  simp

end LastCall

/-! ## Patterns that take -/

/-- If the value carries the tag of the pattern, the pattern takes its payload. -/
def Pattern.TakesAt [Tagged V T] (p : Pattern V T P) (v : V) : Prop :=
  TagDispatch.tag v = p.tag → ∃ x, p.take v = .ok x

/-- A pattern that is lawful at a value takes its payload. -/
theorem Pattern.LawfulAt.takesAt [Tagged V T] {p : Pattern V T P} {v : V} (h : p.LawfulAt v) :
    p.TakesAt v := by
  intro htag
  obtain ⟨x, hx⟩ := Option.isSome_iff_exists.mp (h.peek?_isSome_iff.mpr htag)
  exact ⟨x, by rw [h.take_eq, hx]; rfl⟩

theorem Pattern.demand_of_take [Tagged V T] [Tag T] {p : Pattern V T P} {v : V} {x : P}
    (h : p.take v = .ok x) : p.demand v = (pure x : Act ε σ P) := by
  rw [Pattern.demand, h]

/-- A payload that is demanded and cannot be taken is the defect of a wrong branch. -/
theorem Pattern.demand_of_error [Tagged V T] [Tag T] {p : Pattern V T P} {v v' : V}
    (h : p.take v = .error v') :
    p.demand v = (wrongBranch p.tag (TagDispatch.tag v') : Act ε σ P) := by
  rw [Pattern.demand, h]

/-- Taking a payload raises nothing but the defect of a wrong branch. -/
theorem Pattern.demand_avoids [Tagged V T] [Tag T] {e : Error}
    (he : ∀ expected found, e ≠ .branchKeyMismatch expected found) (p : Pattern V T P) (v : V) :
    (p.demand v : Act ε σ P).Avoids e := by
  intro s
  unfold Pattern.demand
  cases p.take v with
  | ok x => simp
  | error v' =>
    intro h
    exact he _ _ (Ending.defective.inj h).symm

/-- Where the tags agree, a payload that is taken is a result. -/
theorem Pattern.TakesAt.demand_of [Tagged V T] [Tag T] {Q : (α : Type) → Act ε σ α → Prop}
    (hQ : Act.Compositional Q) {p : Pattern V T P} {v : V} (h : p.TakesAt v)
    (htag : TagDispatch.tag v = p.tag) : Q P (p.demand v) := by
  obtain ⟨x, hx⟩ := h htag
  rw [Pattern.demand_of_take hx]
  exact hQ.ofResult x

/-! ## What a call registers -/

namespace Registration

/-- The pattern of the call, if there is one, is among those that `Q` admits. -/
def PatternIn (Q : (P : Type) → Pattern V T P → Prop) : Registration ε σ V T R → Prop
  | handle p _ => Q _ p
  | chain cs _ => Q _ cs.pattern
  | orElse _ => True

/-- The code of the call has the property. -/
def CodeIn (Q : (α : Type) → Act ε σ α → Prop) : Registration ε σ V T R → Prop
  | handle _ handler => ∀ x, Q R (handler x)
  | chain cs default => (∀ c ∈ cs.cases, c.CodeIn Q) ∧ ∀ x, Q R (default x)
  | orElse f => Q R f

/-- A weaker condition on patterns is a weaker one on the call. -/
theorem PatternIn.imp {Q Q' : (P : Type) → Pattern V T P → Prop} {call : Registration ε σ V T R}
    (himp : ∀ {P : Type} {p : Pattern V T P}, Q P p → Q' P p) (h : call.PatternIn Q) :
    call.PatternIn Q' := by
  cases call with
  | handle p handler => exact himp h
  | chain cs default => exact himp h
  | orElse f => trivial

/-- A weaker condition on code is a weaker one on the code of the call. -/
theorem CodeIn.imp {Q Q' : (α : Type) → Act ε σ α → Prop} {call : Registration ε σ V T R}
    (himp : ∀ {α : Type} {x : Act ε σ α}, Q α x → Q' α x) (h : call.CodeIn Q) :
    call.CodeIn Q' := by
  cases call with
  | handle p handler => exact fun x => himp (h x)
  | chain cs default => exact ⟨fun c hc => (h.1 c hc).imp himp, fun x => himp (h.2 x)⟩
  | orElse f => exact himp h

/-- Calls whose code is foreign avoid every defect. -/
theorem avoids_of_foreign {calls : List (Registration ε σ V T R)}
    (h : ∀ call ∈ calls, call.CodeIn fun _ x => x.Foreign) (e : Error) :
    ∀ call ∈ calls, call.CodeIn fun _ x => x.Avoids e :=
  fun call hcall => (h call hcall).imp fun hx => hx.avoids e

/-- A property of all patterns is one of the pattern of the call. -/
theorem patternIn_of_forall {Q : (P : Type) → Pattern V T P → Prop}
    {call : Registration ε σ V T R} (h : ∀ {P : Type} (p : Pattern V T P), Q P p) :
    call.PatternIn Q := by
  cases call with
  | handle p handler => exact h p
  | chain cs default => exact h cs.pattern
  | orElse f => trivial

/-- The fallback that the call sets, if it sets one. -/
def fallback? : Registration ε σ V T R → Option (Act ε σ R)
  | orElse f => some f
  | _ => none

/-- What the call lets a table run on a value. -/
def answer [Tagged V T] [Tag T] : Registration ε σ V T R → V → Act ε σ R
  | handle p handler, v => do
    let x ← p.demand v
    handler x
  | chain cs default, v => (cs.close default).run v
  | orElse f, _ => f

/-- The call takes the payload of the value and leaves the code that runs on it. -/
inductive Executes : Registration ε σ V T R → V → Act ε σ R → Prop
  | handle {P : Type} {p : Pattern V T P} {handler : P → Act ε σ R} {v : V} {x : P}
      (h : p.take v = .ok x) : Executes (.handle p handler) v (handler x)
  | chain {P : Type} {cs : Cases ε σ V T P R} {default : P → Act ε σ R} {v : V} {x : P}
      (h : cs.pattern.take v = .ok x) : Executes (.chain cs default) v (runCases default x cs.cases)

/-- Once the payload is taken, the rest of the answer is the executed code. -/
theorem answer_of_executes [Tagged V T] [Tag T] {call : Registration ε σ V T R} {v : V}
    {body : Act ε σ R} (h : call.Executes v body) : call.answer v = body := by
  cases h with
  | handle h => rw [answer, Pattern.demand_of_take h, pure_bind]
  | chain h =>
    show (_ >>= _) = _
    rw [Pattern.demand_of_take h, pure_bind]

/-- A call for the tag of a value is executed on it, if its pattern takes the payload. -/
theorem exists_executes [Tagged V T] {call : Registration ε σ V T R} {v : V}
    (htag : call.tag? = some (tag v)) (h : call.PatternIn fun _ p => p.TakesAt v) :
    ∃ body, call.Executes v body := by
  cases call with
  | handle p handler =>
    obtain ⟨x, hx⟩ := h (Option.some.inj htag).symm
    exact ⟨handler x, .handle hx⟩
  | chain cs default =>
    obtain ⟨x, hx⟩ := h (Option.some.inj htag).symm
    exact ⟨runCases default x cs.cases, .chain hx⟩
  | orElse f => cases htag

/-- The answer of a call has every compositional property that taking the payload and the code of
the call have. -/
theorem answer_of_code [Tagged V T] [Tag T] {Q : (α : Type) → Act ε σ α → Prop}
    (hQ : Act.Compositional Q) {call : Registration ε σ V T R} {v : V}
    (hdemand : call.PatternIn fun P p => Q P (p.demand v)) (hcode : call.CodeIn Q) :
    Q R (call.answer v) := by
  cases call with
  | handle p handler => exact hQ.ofBind hdemand hcode
  | chain cs default => exact hQ.ofBind hdemand fun x => runCases_of_code hQ hcode.2 hcode.1 x
  | orElse f => exact hcode

/-- The answer of a call misses no handler unless the code of the call does: a payload that cannot
be taken is a defect of another kind. -/
theorem answer_avoids_handlerKey [Tagged V T] [Tag T] {call : Registration ε σ V T R}
    {name : String} (hcode : call.CodeIn fun _ x => x.Avoids (.handlerKey name)) (v : V) :
    (call.answer v).Avoids (.handlerKey name) := by
  have hcompositional := Act.avoids_compositional (ε := ε) (σ := σ) (.handlerKey name)
  refine answer_of_code hcompositional (patternIn_of_forall fun p => ?_) hcode
  exact p.demand_avoids (by simp) v

/-- A call for the tag of a value, whose pattern takes the payload, has every compositional property
that its code has. -/
theorem answer_of_takesAt [Tagged V T] [Tag T] {Q : (α : Type) → Act ε σ α → Prop}
    (hQ : Act.Compositional Q) {call : Registration ε σ V T R} {v : V}
    (htag : call.tag? = some (tag v)) (htakes : call.PatternIn fun _ p => p.TakesAt v)
    (hcode : call.CodeIn Q) : Q R (call.answer v) := by
  refine answer_of_code hQ ?_ hcode
  cases call with
  | handle p handler => exact Pattern.TakesAt.demand_of hQ htakes (Option.some.inj htag).symm
  | chain cs default => exact Pattern.TakesAt.demand_of hQ htakes (Option.some.inj htag).symm
  | orElse f => cases htag

/-- A fallback is code of the call that sets it. -/
theorem codeIn_of_fallback? {Q : (α : Type) → Act ε σ α → Prop} {call : Registration ε σ V T R}
    {f : Act ε σ R} (h : call.fallback? = some f) (hcall : call.CodeIn Q) : Q R f := by
  cases call with
  | orElse g =>
    cases h
    exact hcall
  | handle p handler => cases h
  | chain cs default => cases h

/-- The last fallback of some calls is code of one of them. -/
theorem codeIn_of_lastFallback {Q : (α : Type) → Act ε σ α → Prop}
    {calls : List (Registration ε σ V T R)} {f : Act ε σ R}
    (hf : calls.findSomeRev? fallback? = some f) (hcode : ∀ call ∈ calls, call.CodeIn Q) :
    Q R f := by
  obtain ⟨call, hcall, hfallback⟩ := exists_mem_of_findSomeRev? hf
  exact codeIn_of_fallback? hfallback (hcode call hcall)

end Registration

/-! ## What a table holds -/

namespace Table

variable [Tagged V T] [DecidableEq T] [Tag T]

theorem ofRegistrations_append_singleton (calls : List (Registration ε σ V T R))
    (call : Registration ε σ V T R) :
    ofRegistrations (calls ++ [call]) = (ofRegistrations calls).register call := by
  rw [ofRegistrations, List.foldl_append]
  rfl

/-- A call changes what is found for its own tag and nothing else. -/
theorem find?_register (table : Table ε σ V T R) (call : Registration ε σ V T R) (t : T) :
    (table.register call).entries.find? t =
      if call.tag? = some t then some call.answer else table.entries.find? t := by
  cases call with
  | handle p handler =>
    show (table.entries.insert p.tag _).find? t = _
    rw [Entries.find?_insert]
    simp only [Registration.tag?, Option.some.injEq]
    rfl
  | chain cs default =>
    show (table.entries.insert cs.pattern.tag _).find? t = _
    rw [Entries.find?_insert]
    simp only [Registration.tag?, Option.some.injEq]
    rfl
  | orElse f => rfl

/-- A call keeps the fallback unless it sets one. -/
theorem fallback_register (table : Table ε σ V T R) (call : Registration ε σ V T R) :
    (table.register call).fallback = call.fallback?.or table.fallback := by
  cases call <;> rfl

/-- For every tag the table holds what the last call for it registered. -/
theorem find?_ofRegistrations (calls : List (Registration ε σ V T R)) (t : T) :
    (ofRegistrations calls).entries.find? t =
      (lastCall Registration.tag? calls t).map Registration.answer := by
  induction calls using List.reverseRecOn with
  | nil => rfl
  | append_singleton calls call ih =>
    -- a call for the tag hides all earlier ones, and any other call leaves them as they are
    rw [ofRegistrations_append_singleton, find?_register, ih, lastCall_append_singleton]
    split <;> rfl

/-- The table falls back to what the last call that set a fallback set. -/
theorem fallback_ofRegistrations (calls : List (Registration ε σ V T R)) :
    (ofRegistrations calls).fallback = calls.findSomeRev? Registration.fallback? := by
  induction calls using List.reverseRecOn with
  | nil => rfl
  | append_singleton calls call ih =>
    rw [ofRegistrations_append_singleton, fallback_register, ih, findSomeRev?_append_singleton]

end Table

end TagDispatch
