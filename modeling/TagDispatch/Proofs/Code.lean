import TagDispatch.Chain

/-!
# Code of the caller

Guards, handlers, defaults and fallbacks are code of the caller, which may do anything a run can do.
What is said about a dispatch is often relative to that code: a defect that no code of the caller
ends in can only be the dispatcher's own, and so can every notice, if the code is foreign to the
dispatcher.

Such properties pass from the parts of a computation to the whole. `Act.Compositional` says so once;
`runCases_of_code` carries a compositional property from the cases of a chain to its run.
-/

namespace TagDispatch

variable {ε σ α β P R : Type}

namespace Act

/-- No run of the code ends in the defect. -/
def Avoids (e : Error) (x : Act ε σ α) : Prop := ∀ s, (x s).ending ≠ .defective e

/-- Foreign code does not call the dispatcher: it ends in no defect and writes no notice. -/
structure Foreign (x : Act ε σ α) : Prop where
  avoids : ∀ e, x.Avoids e
  notice_notMem : ∀ s n, Entry.notice n ∉ (x s).log

/-- A property of code that every result has and that sequencing keeps. -/
structure Compositional (Q : (α : Type) → Act ε σ α → Prop) : Prop where
  ofResult : ∀ {α : Type} (a : α), Q α (pure a)
  ofBind : ∀ {α β : Type} {x : Act ε σ α} {f : α → Act ε σ β},
    Q α x → (∀ a, Q β (f a)) → Q β (x >>= f)

/-! ## The ending and the log of a sequence -/

/-- A sequence ends in a defect of its first part, or in one of what follows a result. -/
theorem ending_bind {x : Act ε σ α} {f : α → Act ε σ β} {s : σ} {e : Error}
    (h : ((x >>= f) s).ending = .defective e) :
    (x s).ending = .defective e ∨ ∃ a s', (f a s').ending = .defective e := by
  rcases hx : x s with ⟨a | text | e', s', log⟩
  · rw [bind_done hx] at h
    exact Or.inr ⟨a, s', h⟩
  · rw [bind_panicked hx] at h
    cases h
  · rw [bind_defective hx] at h
    cases h
    exact Or.inl rfl

/-- A sequence has a result only if its first part and what follows have one. -/
theorem done_bind {x : Act ε σ α} {f : α → Act ε σ β} {s : σ} {b : β}
    (h : ((x >>= f) s).ending = .done b) :
    ∃ a s', (x s).ending = .done a ∧ (f a s').ending = .done b := by
  rcases hx : x s with ⟨a | text | e, s', log⟩
  · rw [bind_done hx] at h
    exact ⟨a, s', rfl, h⟩
  · rw [bind_panicked hx] at h
    cases h
  · rw [bind_defective hx] at h
    cases h

/-- What a sequence writes is written by its first part or by what follows a result. -/
theorem mem_log_bind {x : Act ε σ α} {f : α → Act ε σ β} {s : σ} {entry : Entry ε}
    (h : entry ∈ ((x >>= f) s).log) : entry ∈ (x s).log ∨ ∃ a s', entry ∈ (f a s').log := by
  rcases hx : x s with ⟨a | text | e, s', log⟩
  · rw [bind_done hx] at h
    rcases List.mem_append.mp h with hlog | hf
    · exact Or.inl hlog
    · exact Or.inr ⟨a, s', hf⟩
  · rw [bind_panicked hx] at h
    exact Or.inl h
  · rw [bind_defective hx] at h
    exact Or.inl h

/-! ## Compositional properties -/

/-- Avoiding a defect is compositional. -/
theorem avoids_compositional (e : Error) :
    Compositional fun _ (x : Act ε σ _) => x.Avoids e where
  ofResult a s := by simp
  ofBind hx hf s h := by
    rcases ending_bind h with hx' | ⟨a, s', hf'⟩
    · exact hx s hx'
    · exact hf a s' hf'

/-- Being foreign is compositional. -/
theorem foreign_compositional : Compositional fun _ (x : Act ε σ _) => x.Foreign where
  ofResult a :=
    { avoids := fun e => (avoids_compositional e).ofResult a
      notice_notMem := fun s n => by simp }
  ofBind hx hf :=
    { avoids := fun e => (avoids_compositional e).ofBind (hx.avoids e) fun a => (hf a).avoids e
      notice_notMem := fun s n h => by
        rcases mem_log_bind h with hx' | ⟨a, s', hf'⟩
        · exact hx.notice_notMem s n hx'
        · exact (hf a).notice_notMem s' n hf' }

/-- A compositional property of code is one of the code with its result converted. -/
theorem Compositional.ofMap {Q : (α : Type) → Act ε σ α → Prop} (hQ : Compositional Q)
    {x : Act ε σ α} (hx : Q α x) (g : α → β) : Q β (g <$> x) := by
  rw [← bind_pure_comp]
  exact hQ.ofBind hx fun a => hQ.ofResult (g a)

/-! ## Foreign code

What code is made of, unless it calls the dispatcher: writing, panicking, and updating the state.
-/

theorem foreign_write (entry : ε) : (write entry : Act ε σ Unit).Foreign where
  avoids e s := by simp [write]
  notice_notMem s n := by simp [write]

theorem foreign_panic (text : String) : (panic text : Act ε σ α).Foreign where
  avoids e s := by simp [panic]
  notice_notMem s n := by simp [panic]

theorem foreign_update (f : σ → α × σ) : (update f : Act ε σ α).Foreign where
  avoids e s := by simp [update]
  notice_notMem s n := by simp [update]

end Act

/-! ## What the caller observes -/

/-- What called code wrote, without the notices of the dispatcher. -/
def Run.written (r : Run ε σ α) : List ε :=
  r.log.filterMap fun
    | .wrote entry => some entry
    | .notice _ => none

/-- What the caller observes of a run: its ending, its final state, and what called code wrote. -/
def Act.observed (x : Act ε σ α) (s : σ) : Ending α × σ × List ε :=
  ((x s).ending, (x s).state, (x s).written)

/-- A notice ahead of a computation is not observed. -/
@[simp]
theorem Act.observed_notice_bind (n : Notice) (f : Unit → Act ε σ α) :
    (Act.notice n >>= f).observed = (f ()).observed := rfl

/-! ## Guarded cases -/

/-- The guard and the handler of a case have the property. -/
structure Case.CodeIn (Q : (α : Type) → Act ε σ α → Prop) (c : Case ε σ P R) : Prop where
  guard : ∀ x, Q Bool (c.guard x)
  handler : ∀ x, Q R (c.handler x)

theorem Case.CodeIn.imp {Q Q' : (α : Type) → Act ε σ α → Prop} {c : Case ε σ P R}
    (himp : ∀ {α : Type} {x : Act ε σ α}, Q α x → Q' α x) (hc : c.CodeIn Q) : c.CodeIn Q' where
  guard x := himp (hc.guard x)
  handler x := himp (hc.handler x)

/-- A run of cases has every compositional property that the cases and the default have. -/
theorem runCases_of_code {Q : (α : Type) → Act ε σ α → Prop} (hQ : Act.Compositional Q)
    {default : P → Act ε σ R} (hdefault : ∀ x, Q R (default x)) {cases : List (Case ε σ P R)}
    (hcases : ∀ c ∈ cases, c.CodeIn Q) (x : P) : Q R (runCases default x cases) := by
  induction cases with
  | nil => exact hdefault x
  | cons c rest ih =>
    have hc : c.CodeIn Q := hcases c List.mem_cons_self
    have hrest : Q R (runCases default x rest) :=
      ih fun c' hc' => hcases c' (List.mem_cons_of_mem c hc')
    -- the guard decides between the handler of the case and the rest of the cases
    refine hQ.ofBind (hc.guard x) fun accepted => ?_
    cases accepted with
    | false => exact hrest
    | true => exact hc.handler x

end TagDispatch
