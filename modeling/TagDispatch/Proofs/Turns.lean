import TagDispatch.Proofs.Execution

/-!
# Taking turns

Guards are asked one after the other until one accepts, and branches are tried one after the other
until one fires. Both are a search in which candidates take turns: at its turn a candidate gives
something or passes, and `Act.search` stops at the first that does not pass.

`TakeTurns` says how such a search goes from a state: which candidates have their turn, and whether
one of them gives something, all pass, or the last one has no result. Every search goes one of these
ways, `exists_takeTurns`, and it does what the turns that were had do in sequence,
`TakeTurns.search_bind`.
-/

namespace TagDispatch

universe u

variable {ε σ α β : Type} {γ : Type u}

/-- The ending with its result converted. -/
def Ending.map (g : α → β) : Ending α → Ending β
  | .done a => .done (g a)
  | .panicked text => .panicked text
  | .defective e => .defective e

namespace Act

/-! ## Sequences -/

variable {a : α} {s : σ}

/-- To convert the result of a computation leaves the rest of its runs as it is. -/
theorem map_apply (g : α → β) (x : Act ε σ α) (s : σ) :
    (g <$> x) s = ⟨(x s).ending.map g, (x s).state, (x s).log⟩ := by
  rw [← bind_pure_comp, bind_apply]
  rcases x s with ⟨_ | _ | _, s', log⟩ <;> simp [Ending.map]

/-- Where the first part has a result, the rest of a sequence runs from the state that it left. -/
theorem bind_eq_after {x : Act ε σ α} (h : (x s).ending = .done a) (f : α → Act ε σ β) :
    (x >>= f) s = (f a (x s).state).after (x s).log := by
  rw [bind_eq_follow, Run.follow, h]

/-- Without a result of its first part a sequence does not go on, whatever would follow. -/
theorem bind_congr_of_not_done {x : Act ε σ α} (h : ∀ a, (x s).ending ≠ .done a)
    (f g : α → Act ε σ β) : (x >>= f) s = (x >>= g) s := by
  rw [bind_eq_follow, bind_eq_follow]
  unfold Run.follow
  cases hx : (x s).ending with
  | done a => exact absurd hx (h a)
  | panicked text => rfl
  | defective e => rfl

/-- Runs code one after the other, whatever the results. -/
def inTurn : List (Act ε σ α) → Act ε σ Unit
  | [] => pure ()
  | x :: rest => do
    let _ ← x
    inTurn rest

theorem inTurn_cons_bind (x : Act ε σ α) (rest : List (Act ε σ α)) (f : Unit → Act ε σ β) :
    inTurn (x :: rest) >>= f = x >>= fun _ => inTurn rest >>= f := by
  rw [inTurn, bind_assoc]

/-! ## Searches -/

/-- Makes attempts one after the other, up to the first that gives something. -/
def search : List (Act ε σ (Option α)) → Act ε σ (Option α)
  | [] => pure none
  | x :: rest => do
    match ← x with
    | some a => pure (some a)
    | none => search rest

/-- After an attempt the search goes on with what it gives, or among the others. -/
theorem search_cons_bind (x : Act ε σ (Option α)) (rest : List (Act ε σ (Option α)))
    (f : Option α → Act ε σ β) :
    search (x :: rest) >>= f = x >>= fun
      | some a => f (some a)
      | none => search rest >>= f := by
  rw [search, bind_assoc]
  refine congrArg (x >>= ·) (funext fun o => ?_)
  cases o with
  | some a => exact pure_bind (some a) f
  | none => rfl

/-- Runs the code that a search gives, if it gives any. -/
def runGiven : Option (Act ε σ α) → Act ε σ (Option α)
  | some body => some <$> body
  | none => pure none

/-- Asks a guard, and gives something provided that it accepts. -/
def provided (guard : Act ε σ Bool) (a : α) : Act ε σ (Option α) := do
  if ← guard then pure (some a) else pure none

/-- What is done after asking does not depend on what would have been given. -/
theorem provided_bind_const (guard : Act ε σ Bool) (a : α) (next : Act ε σ β) :
    (provided guard a >>= fun _ => next) = guard >>= fun _ => next := by
  rw [provided, bind_assoc]
  refine congrArg (guard >>= ·) (funext fun accepted => ?_)
  cases accepted <;> simp

/-- All code that a computation gives has the property. -/
def GivesIn (Q : (β : Type) → Act ε σ β → Prop) (x : Act ε σ (Option (Act ε σ α))) : Prop :=
  ∀ s body, (x s).ending = .done (some body) → Q α body

section Code

variable {Q : (β : Type) → Act ε σ β → Prop}

theorem provided_of_code (hQ : Compositional Q) {guard : Act ε σ Bool} (hguard : Q Bool guard)
    (a : α) : Q (Option α) (provided guard a) := by
  refine hQ.ofBind hguard fun accepted => ?_
  cases accepted with
  | false => exact hQ.ofResult none
  | true => exact hQ.ofResult (some a)

theorem pure_givesIn {given : Option (Act ε σ α)} (h : ∀ body ∈ given, Q α body) :
    GivesIn Q (pure given) := by
  intro s body hbody
  exact h body (Ending.done.inj hbody)

theorem provided_givesIn {guard : Act ε σ Bool} {body : Act ε σ α} (h : Q α body) :
    GivesIn Q (provided guard body) := by
  intro s given hgiven
  obtain ⟨accepted, s', -, hdone⟩ := done_bind hgiven
  cases accepted with
  | false => cases hdone
  | true =>
    cases hdone
    exact h

theorem search_of_code (hQ : Compositional Q) {xs : List (Act ε σ (Option α))}
    (h : ∀ x ∈ xs, Q (Option α) x) : Q (Option α) (search xs) := by
  induction xs with
  | nil => exact hQ.ofResult none
  | cons x rest ih =>
    obtain ⟨hx, hrest⟩ := List.forall_mem_cons.mp h
    refine hQ.ofBind hx fun o => ?_
    cases o with
    | some a => exact hQ.ofResult (some a)
    | none => exact ih hrest

/-- A search gives nothing but what one of its attempts gives. -/
theorem search_givesIn {xs : List (Act ε σ (Option (Act ε σ α)))} (h : ∀ x ∈ xs, GivesIn Q x) :
    GivesIn Q (search xs) := by
  induction xs with
  | nil => exact pure_givesIn (by simp)
  | cons x rest ih =>
    obtain ⟨hx, hrest⟩ := List.forall_mem_cons.mp h
    intro s body hbody
    obtain ⟨o, s', ho, hdone⟩ := done_bind hbody
    cases o with
    | some given =>
      cases hdone
      exact hx s _ ho
    | none => exact ih hrest s' body hdone

end Code

end Act

open Act

/-! ## Turns -/

/-- What comes of candidates that take turns. -/
inductive Outcome (α : Type) where
  /-- One of them gives something. -/
  | given (a : α)
  /-- All of them pass. -/
  | nothing
  /-- One of them has no result. -/
  | cutShort

/-- Candidates take turns from a state, up to the first that does not pass: the candidates that have
their turn, and what comes of it. -/
inductive TakeTurns (turn : γ → Act ε σ (Option α)) :
    List γ → σ → List γ → Outcome α → Prop
  | nothing (s : σ) : TakeTurns turn [] s [] .nothing
  | given {c : γ} {s : σ} {a : α} (hc : (turn c s).ending = .done (some a)) (later : List γ) :
      TakeTurns turn (c :: later) s [c] (.given a)
  | cutShort {c : γ} {s : σ} (hc : ∀ o, (turn c s).ending ≠ .done o) (later : List γ) :
      TakeTurns turn (c :: later) s [c] .cutShort
  | pass {c : γ} {s : σ} (hc : (turn c s).ending = .done none) {later had : List γ}
      {outcome : Outcome α} (hlater : TakeTurns turn later (turn c s).state had outcome) :
      TakeTurns turn (c :: later) s (c :: had) outcome

/-- Candidates that take turns from a state come to something. -/
theorem exists_takeTurns (turn : γ → Act ε σ (Option α)) (cs : List γ) (s : σ) :
    ∃ had outcome, TakeTurns turn cs s had outcome := by
  induction cs generalizing s with
  | nil => exact ⟨[], .nothing, .nothing s⟩
  | cons c later ih =>
    cases hc : (turn c s).ending with
    | done o =>
      cases o with
      | some a => exact ⟨[c], .given a, .given hc later⟩
      | none =>
        obtain ⟨had, outcome, hlater⟩ := ih (turn c s).state
        exact ⟨c :: had, outcome, .pass hc hlater⟩
    | panicked text => exact ⟨[c], .cutShort, .cutShort (by simp [hc]) later⟩
    | defective e => exact ⟨[c], .cutShort, .cutShort (by simp [hc]) later⟩

/-- How a search that goes on with `f` goes on after an outcome; after a turn without a result it
does not, so whatever would follow will do. -/
inductive Outcome.GoesOn (f : Option α → Act ε σ β) : Outcome α → Act ε σ β → Prop
  | given (a : α) : GoesOn f (.given a) (f (some a))
  | nothing : GoesOn f .nothing (f none)
  | cutShort (next : Act ε σ β) : GoesOn f .cutShort next

namespace TakeTurns

variable {turn : γ → Act ε σ (Option α)} {cs had : List γ} {s : σ} {outcome : Outcome α}

/-- The candidates that have their turn are the first ones. -/
theorem isPrefix_had (h : TakeTurns turn cs s had outcome) : had <+: cs := by
  induction h with
  | nothing s => exact List.nil_prefix
  | given hc later => exact ⟨later, rfl⟩
  | cutShort hc later => exact ⟨later, rfl⟩
  | pass hc _ ih => exact List.cons_prefix_cons.mpr ⟨rfl, ih⟩

/-- All candidates have their turn if none of them gives something. -/
theorem had_eq (h : TakeTurns turn cs s had outcome) (hnothing : outcome = .nothing) :
    had = cs := by
  induction h with
  | nothing s => rfl
  | given hc later => cases hnothing
  | cutShort hc later => cases hnothing
  | pass hc _ ih => rw [ih hnothing]

/-- A search does what the turns that were had do in sequence, and then goes on. -/
theorem search_bind (h : TakeTurns turn cs s had outcome) {f : Option α → Act ε σ β}
    {next : Act ε σ β} (hnext : outcome.GoesOn f next) :
    (search (cs.map turn) >>= f) s = (inTurn (had.map turn) >>= fun _ => next) s := by
  induction h with
  | nothing s =>
    cases hnext
    rfl
  | given hc later =>
    cases hnext
    rw [List.map_cons, List.map_singleton, search_cons_bind, inTurn_cons_bind, bind_eq_after hc,
      bind_eq_after hc]
    rfl
  | cutShort hc later =>
    rw [List.map_cons, List.map_singleton, search_cons_bind, inTurn_cons_bind]
    exact bind_congr_of_not_done hc _ _
  | pass hc _ ih =>
    rw [List.map_cons, List.map_cons, search_cons_bind, inTurn_cons_bind, bind_eq_after hc,
      bind_eq_after hc, ← ih hnext]

/-- If code that a search gives is run, then there is a result of it exactly if some was given. -/
theorem isSome_iff {turn : γ → Act ε σ (Option (Act ε σ α))} {cs had : List γ} {s : σ}
    {outcome : Outcome (Act ε σ α)} (h : TakeTurns turn cs s had outcome) {o : Option α}
    (ho : ((search (cs.map turn) >>= runGiven) s).ending = .done o) :
    o.isSome ↔ ∃ body, outcome = .given body := by
  cases outcome with
  | given body =>
    rw [h.search_bind (.given body)] at ho
    obtain ⟨-, s', -, hbody⟩ := done_bind ho
    rw [runGiven, map_apply] at hbody
    rcases hrun : body s' with ⟨a | _ | _, s'', log⟩ <;> rw [hrun] at hbody <;> cases hbody
    simp
  | nothing =>
    rw [h.search_bind .nothing] at ho
    obtain ⟨-, s', -, hnone⟩ := done_bind ho
    cases hnone
    simp
  | cutShort =>
    -- whatever would have followed was not run, so not even a panic
    rw [h.search_bind (.cutShort (panic "unreached"))] at ho
    obtain ⟨-, s', -, hpanic⟩ := done_bind ho
    cases hpanic

end TakeTurns

end TagDispatch
