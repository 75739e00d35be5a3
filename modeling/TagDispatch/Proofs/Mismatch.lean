import TagDispatch.Proofs.Access

/-!
# Wrong branches in tables

A table finds an entry by the tag of a value and takes the payload only then, so a pattern that
contradicts itself is found out when its entry is dispatched to. `Table.Mismatched` says that the
last call for the tag is such a one. Then the dispatch is the defect of a wrong branch, and neither
an earlier call for the tag nor the fallback steps in. Else the dispatch comes to code of the
caller, `Table.ComesTo`, or nothing handles the tag, so another wrong branch can only be one that
this code meets.

A partial table goes wrong where the exhaustive table with optional results does,
`PartialTable.ending_wrongBranch_iff`.
-/

namespace TagDispatch

variable {ε σ V T P R : Type}

/-- The pattern does not take the payload of the value. -/
def Pattern.FailsAt (p : Pattern V T P) (v : V) : Prop := ∃ v', p.take v = .error v'

variable [Tagged V T] [Tag T] {v : V} {s : σ} {expected found : String}

/-- A run that enters the branch for one tag with a value of another. -/
theorem wrongBranch_apply (t t' : T) (s : σ) :
    (wrongBranch t t' : Act ε σ R) s =
      ⟨.defective (.branchKeyMismatch (Tag.name t) (Tag.name t')), s,
        [.notice (.defect (Error.branchKeyMismatch (Tag.name t) (Tag.name t')).message)]⟩ := rfl

/-! ## Calls whose pattern fails -/

namespace Registration

variable {call : Registration ε σ V T R}

omit [Tag T] in
/-- The pattern of a call for the tag of a value fails at it, or the call is executed on it. -/
theorem fails_or_executes (htag : call.tag? = some (tag v)) :
    (call.PatternIn fun _ p => p.FailsAt v) ∨ ∃ body, call.Executes v body := by
  cases call with
  | handle p handler =>
    cases htake : p.take v with
    | error v' => exact Or.inl ⟨v', htake⟩
    | ok x => exact Or.inr ⟨handler x, .handle htake⟩
  | chain cs default =>
    cases htake : cs.pattern.take v with
    | error v' => exact Or.inl ⟨v', htake⟩
    | ok x => exact Or.inr ⟨runCases default x cs.cases, .chain htake⟩
  | orElse f => cases htag

omit [Tagged V T] [Tag T] in
theorem not_executes_of_fails (hfails : call.PatternIn fun _ p => p.FailsAt v)
    (body : Act ε σ R) : ¬ call.Executes v body := by
  intro hbody
  cases hbody with
  | handle htake =>
    obtain ⟨v', herror⟩ := hfails
    rw [htake] at herror
    cases herror
  | chain htake =>
    obtain ⟨v', herror⟩ := hfails
    rw [htake] at herror
    cases herror

/-- A call for the tag of a value whose pattern fails at it answers with the defect, whatever its
code is. -/
theorem answer_of_fails (htag : call.tag? = some (tag v))
    (hgives : call.PatternIn fun _ p => p.GivesBack)
    (hfails : call.PatternIn fun _ p => p.FailsAt v) :
    call.answer v = wrongBranch (tag v) (tag v) := by
  have hdemand : ∀ {P : Type} {p : Pattern V T P}, p.tag = tag v → p.GivesBack → p.FailsAt v →
      (p.demand v : Act ε σ P) = wrongBranch (tag v) (tag v) := by
    rintro P p hp hback ⟨v', htake⟩
    have hv : v' = v := hback v v' htake
    rw [Pattern.demand_of_error htake, hp, hv]
  cases call with
  | handle p handler =>
    rw [answer, hdemand (Option.some.inj htag) hgives hfails]
    rfl
  | chain cs default =>
    show cs.pattern.demand v >>= _ = _
    rw [hdemand (Option.some.inj htag) hgives hfails]
    rfl
  | orElse f => cases htag

end Registration

/-! ## Exhaustive tables -/

namespace Table

variable [DecidableEq T] {calls : List (Registration ε σ V T R)} {body : Act ε σ R}

/-- The pattern of the last call for the tag of the value does not take the payload. -/
def Mismatched (calls : List (Registration ε σ V T R)) (v : V) : Prop :=
  ∃ call, lastCall Registration.tag? calls (tag v) = some call ∧
    call.PatternIn fun _ p => p.FailsAt v

/-- The code of the caller that a table comes to on a value: what the last call for the tag executes
on the payload, or the last fallback where no call is for the tag. -/
inductive ComesTo (calls : List (Registration ε σ V T R)) (v : V) : Act ε σ R → Prop
  | call {call : Registration ε σ V T R} {body : Act ε σ R}
      (hlast : lastCall Registration.tag? calls (tag v) = some call)
      (hbody : call.Executes v body) : ComesTo calls v body
  | fallback {f : Act ε σ R} (hlast : lastCall Registration.tag? calls (tag v) = none)
      (hf : calls.findSomeRev? Registration.fallback? = some f) : ComesTo calls v f

omit [Tag T] in
/-- A value is mismatched, or the table comes to code for it, or nothing handles its tag. -/
theorem mismatched_or_comesTo_or_nothing (calls : List (Registration ε σ V T R)) (v : V) :
    Mismatched calls v ∨ (∃ body, ComesTo calls v body) ∨
      (lastCall Registration.tag? calls (tag v) = none ∧
        calls.findSomeRev? Registration.fallback? = none) := by
  cases hlast : lastCall Registration.tag? calls (tag v) with
  | some call =>
    rcases Registration.fails_or_executes (tag?_of_lastCall hlast) with hfails | ⟨body, hbody⟩
    · exact Or.inl ⟨call, hlast, hfails⟩
    · exact Or.inr (Or.inl ⟨body, .call hlast hbody⟩)
  | none =>
    cases hf : calls.findSomeRev? Registration.fallback? with
    | some f => exact Or.inr (Or.inl ⟨f, .fallback hlast hf⟩)
    | none => exact Or.inr (Or.inr ⟨rfl, rfl⟩)

omit [Tag T] in
/-- For a mismatched value the table comes to no code. -/
theorem Mismatched.not_comesTo (h : Mismatched calls v) (body : Act ε σ R) :
    ¬ ComesTo calls v body := by
  obtain ⟨call, hlast, hfails⟩ := h
  intro hbody
  cases hbody with
  | call hlast' hbody =>
    rw [hlast] at hlast'
    obtain rfl := Option.some.inj hlast'
    exact Registration.not_executes_of_fails hfails body hbody
  | fallback hlast' hf =>
    rw [hlast] at hlast'
    cases hlast'

/-- A mismatched value is dispatched and ends in the defect of a wrong branch. -/
theorem dispatch_of_mismatched (hgives : ∀ call ∈ calls, call.PatternIn fun _ p => p.GivesBack)
    (h : Mismatched calls v) :
    (ofRegistrations calls).dispatch v =
      Act.notice (.dispatch (Tag.name (tag v))) >>= fun _ => wrongBranch (tag v) (tag v) := by
  obtain ⟨call, hlast, hfails⟩ := h
  have hcall : call.PatternIn fun _ p => p.GivesBack := hgives call (mem_of_lastCall hlast)
  rw [dispatch_of_lastCall hlast,
    Registration.answer_of_fails (tag?_of_lastCall hlast) hcall hfails]

/-- After one notice the dispatch is the code that the table comes to. -/
theorem dispatch_of_comesTo (h : ComesTo calls v body) :
    ∃ n, (ofRegistrations calls).dispatch v = Act.notice n >>= fun _ => body := by
  cases h with
  | call hlast hbody =>
    refine ⟨.dispatch (Tag.name (tag v)), ?_⟩
    rw [dispatch_of_lastCall hlast, Registration.answer_of_executes hbody]
  | fallback hlast hf => exact ⟨_, dispatch_of_fallback hlast hf⟩

omit [Tag T] in
/-- The code that a table comes to is code of its calls. -/
theorem ComesTo.of_code {Q : (α : Type) → Act ε σ α → Prop} (hQ : Act.Compositional Q)
    (hcode : ∀ call ∈ calls, call.CodeIn Q) (h : ComesTo calls v body) : Q R body := by
  cases h with
  | call hlast hbody =>
    have hcall := hcode _ (mem_of_lastCall hlast)
    cases hbody with
    | handle htake => exact hcall _
    | chain htake => exact runCases_of_code hQ hcall.2 hcall.1 _
  | fallback hlast hf => exact Registration.codeIn_of_lastFallback hf hcode

/-- A dispatch ends in the defect of a wrong branch exactly if the value is mismatched, and then for
its own tag, or if the code that the table comes to ends in this defect. -/
theorem ending_wrongBranch_iff (hgives : ∀ call ∈ calls, call.PatternIn fun _ p => p.GivesBack) :
    ((ofRegistrations calls).dispatch v s).ending =
        .defective (.branchKeyMismatch expected found) ↔
      (Mismatched calls v ∧ expected = Tag.name (tag v) ∧ found = Tag.name (tag v)) ∨
        ∃ body, ComesTo calls v body ∧
          (body s).ending = .defective (.branchKeyMismatch expected found) := by
  constructor
  · intro hending
    rcases mismatched_or_comesTo_or_nothing calls v with hmis | ⟨body, hbody⟩ | ⟨hlast, hf⟩
    · rw [dispatch_of_mismatched hgives hmis, Act.notice_bind_apply, wrongBranch_apply] at hending
      obtain ⟨hexpected, hfound⟩ := Error.branchKeyMismatch.inj (Ending.defective.inj hending)
      exact Or.inl ⟨hmis, hexpected.symm, hfound.symm⟩
    · obtain ⟨n, hdispatch⟩ := dispatch_of_comesTo hbody
      rw [hdispatch, Act.notice_bind_apply] at hending
      exact Or.inr ⟨body, hbody, hending⟩
    · -- a tag that nothing handles is a defect of another kind
      rw [dispatch_of_nothing hlast hf] at hending
      cases Ending.defective.inj hending
  · rintro (⟨hmis, rfl, rfl⟩ | ⟨body, hbody, hending⟩)
    · rw [dispatch_of_mismatched hgives hmis, Act.notice_bind_apply]
      rfl
    · obtain ⟨n, hdispatch⟩ := dispatch_of_comesTo hbody
      rw [hdispatch, Act.notice_bind_apply]
      exact hending

/-- If the code of the calls is foreign, a wrong branch is always that of a mismatched value. -/
theorem exists_wrongBranch_iff (hgives : ∀ call ∈ calls, call.PatternIn fun _ p => p.GivesBack)
    (hforeign : ∀ call ∈ calls, call.CodeIn fun _ x => x.Foreign) :
    (∃ expected found, ((ofRegistrations calls).dispatch v s).ending =
        .defective (.branchKeyMismatch expected found)) ↔ Mismatched calls v := by
  constructor
  · rintro ⟨expected, found, hending⟩
    rcases (ending_wrongBranch_iff hgives).mp hending with ⟨hmis, -, -⟩ | ⟨body, hbody, hraised⟩
    · exact hmis
    · have hcode : body.Foreign := hbody.of_code Act.foreign_compositional hforeign
      exact absurd hraised (hcode.avoids _ s)
  · intro hmis
    exact ⟨_, _, (ending_wrongBranch_iff hgives).mpr (Or.inl ⟨hmis, rfl, rfl⟩)⟩

end Table

/-! ## Partial tables -/

namespace PartialTable

variable [DecidableEq T] {calls : List (PartialRegistration ε σ V T R)}

/-- The pattern of the last call for the tag of the value does not take the payload. -/
def Mismatched (calls : List (PartialRegistration ε σ V T R)) (v : V) : Prop :=
  ∃ call, lastCall PartialRegistration.tag? calls (tag v) = some call ∧
    call.PatternIn fun _ p => p.FailsAt v

/-- The code of the caller that a partial table comes to on a value, with its result optional. -/
def ComesTo (calls : List (PartialRegistration ε σ V T R)) (v : V) :
    Act ε σ (Option R) → Prop :=
  Table.ComesTo (calls.map PartialRegistration.optional) v

omit [Tag T] in
theorem mismatched_optional_iff :
    Table.Mismatched (calls.map PartialRegistration.optional) v ↔ Mismatched calls v := by
  unfold Table.Mismatched Mismatched
  rw [PartialRegistration.lastCall_map_optional]
  cases lastCall PartialRegistration.tag? calls (tag v) with
  | some call => simp [PartialRegistration.patternIn_optional_iff]
  | none => simp

/-- A partial table and the table of its calls with optional results dispatch a value alike, unless
nothing handles its tag: then the one notes it as absent, and for the other it is a defect. -/
theorem dispatch_optional_cases (calls : List (PartialRegistration ε σ V T R)) (v : V) :
    (ofRegistrations calls).dispatch v =
        (Table.ofRegistrations (calls.map PartialRegistration.optional)).dispatch v ∨
      ((ofRegistrations calls).dispatch v =
          Act.notice (.absent (Tag.name (tag v))) >>= fun _ => pure none) ∧
        (Table.ofRegistrations (calls.map PartialRegistration.optional)).dispatch v =
          .defect (.handlerKey (Tag.name (tag v))) := by
  have hlast' := PartialRegistration.lastCall_map_optional calls (tag v)
  have hf' := PartialRegistration.fallback_map_optional calls
  cases hlast : lastCall PartialRegistration.tag? calls (tag v) with
  | some call =>
    rw [hlast] at hlast'
    left
    rw [dispatch_of_lastCall hlast, Table.dispatch_of_lastCall hlast']
  | none =>
    rw [hlast] at hlast'
    cases hf : calls.findSomeRev? PartialRegistration.fallback? with
    | some f =>
      rw [hf] at hf'
      left
      rw [dispatch_of_fallback hlast hf, Table.dispatch_of_fallback hlast' hf']
    | none =>
      rw [hf] at hf'
      exact Or.inr ⟨dispatch_of_nothing hlast hf, Table.dispatch_of_nothing hlast' hf'⟩

/-- A partial table goes wrong exactly where the table of its calls with optional results does. -/
theorem ending_wrongBranch_optional_iff :
    ((ofRegistrations calls).dispatch v s).ending =
        .defective (.branchKeyMismatch expected found) ↔
      ((Table.ofRegistrations (calls.map PartialRegistration.optional)).dispatch v s).ending =
        .defective (.branchKeyMismatch expected found) := by
  rcases dispatch_optional_cases calls v with halike | ⟨habsent, hdefect⟩
  · rw [halike]
  · rw [habsent, hdefect]
    simp [Act.defect]

/-- A mismatched value is dispatched as the table of the calls with optional results does it. -/
theorem Mismatched.dispatch_eq (h : Mismatched calls v) :
    (ofRegistrations calls).dispatch v =
      (Table.ofRegistrations (calls.map PartialRegistration.optional)).dispatch v := by
  obtain ⟨call, hlast, -⟩ := h
  have hlast' := PartialRegistration.lastCall_map_optional calls (tag v)
  rw [hlast] at hlast'
  rw [dispatch_of_lastCall hlast, Table.dispatch_of_lastCall hlast']

end PartialTable

/-! ## Wrong branches -/

section WrongBranches

variable [DecidableEq T]

/-- **Wrong branches.** Let every pattern give back the values that it cannot take. A table of
either kind ends in the defect of a wrong branch exactly if the pattern of the last call for the tag
of the value does not take the payload, and then with the name of this tag in both places, or if the
code that it comes to does; so if the code of the calls is foreign, only the first can be. A table
for which the value is mismatched comes to no code at all: it notes the dispatch and then the
defect. -/
theorem wrong_branch_iff_mismatched (v : V) (s : σ) :
    (∀ calls : List (Registration ε σ V T R),
      (∀ call ∈ calls, call.PatternIn fun _ p => p.GivesBack) →
      (∀ expected found, ((Table.ofRegistrations calls).dispatch v s).ending =
          .defective (.branchKeyMismatch expected found) ↔
        (Table.Mismatched calls v ∧ expected = Tag.name (tag v) ∧ found = Tag.name (tag v)) ∨
          ∃ body, Table.ComesTo calls v body ∧
            (body s).ending = .defective (.branchKeyMismatch expected found)) ∧
      ((∀ call ∈ calls, call.CodeIn fun _ x => x.Foreign) →
        ((∃ expected found, ((Table.ofRegistrations calls).dispatch v s).ending =
          .defective (.branchKeyMismatch expected found)) ↔ Table.Mismatched calls v)) ∧
      (Table.Mismatched calls v → (∀ body, ¬ Table.ComesTo calls v body) ∧
        (Table.ofRegistrations calls).dispatch v s =
          ⟨.defective (.branchKeyMismatch (Tag.name (tag v)) (Tag.name (tag v))), s,
            [.notice (.dispatch (Tag.name (tag v))), .notice (.defect
              (Error.branchKeyMismatch (Tag.name (tag v)) (Tag.name (tag v))).message)]⟩)) ∧
    ∀ calls : List (PartialRegistration ε σ V T R),
      (∀ call ∈ calls, call.PatternIn fun _ p => p.GivesBack) →
      (∀ expected found, ((PartialTable.ofRegistrations calls).dispatch v s).ending =
          .defective (.branchKeyMismatch expected found) ↔
        (PartialTable.Mismatched calls v ∧ expected = Tag.name (tag v) ∧
            found = Tag.name (tag v)) ∨
          ∃ body, PartialTable.ComesTo calls v body ∧
            (body s).ending = .defective (.branchKeyMismatch expected found)) ∧
      ((∀ call ∈ calls, call.CodeIn fun _ x => x.Foreign) →
        ((∃ expected found, ((PartialTable.ofRegistrations calls).dispatch v s).ending =
          .defective (.branchKeyMismatch expected found)) ↔ PartialTable.Mismatched calls v)) ∧
      (PartialTable.Mismatched calls v → (∀ body, ¬ PartialTable.ComesTo calls v body) ∧
        (PartialTable.ofRegistrations calls).dispatch v s =
          ⟨.defective (.branchKeyMismatch (Tag.name (tag v)) (Tag.name (tag v))), s,
            [.notice (.dispatch (Tag.name (tag v))), .notice (.defect
              (Error.branchKeyMismatch (Tag.name (tag v)) (Tag.name (tag v))).message)]⟩) := by
  refine ⟨fun calls hgives => ⟨fun expected found => Table.ending_wrongBranch_iff hgives,
    Table.exists_wrongBranch_iff hgives, fun hmis => ⟨hmis.not_comesTo, ?_⟩⟩,
    fun calls hgives => ?_⟩
  · rw [Table.dispatch_of_mismatched hgives hmis]
    rfl
  · -- the calls with optional results meet what the calls do
    have hgives' : ∀ call ∈ calls.map PartialRegistration.optional,
        call.PatternIn fun _ p => p.GivesBack :=
      List.forall_mem_map.mpr fun call hcall =>
        PartialRegistration.patternIn_optional_iff.mpr (hgives call hcall)
    refine ⟨fun expected found => ?_, fun hforeign => ?_, fun hmis => ?_⟩
    · rw [PartialTable.ending_wrongBranch_optional_iff, Table.ending_wrongBranch_iff hgives',
        PartialTable.mismatched_optional_iff]
      rfl
    · have hforeign' : ∀ call ∈ calls.map PartialRegistration.optional,
          call.CodeIn fun _ x => x.Foreign :=
        List.forall_mem_map.mpr fun call hcall =>
          (hforeign call hcall).optional Act.foreign_compositional
      simp only [PartialTable.ending_wrongBranch_optional_iff]
      rw [Table.exists_wrongBranch_iff hgives' hforeign', PartialTable.mismatched_optional_iff]
    · have hmis' := PartialTable.mismatched_optional_iff.mpr hmis
      refine ⟨hmis'.not_comesTo, ?_⟩
      rw [hmis.dispatch_eq, Table.dispatch_of_mismatched hgives' hmis']
      rfl

end WrongBranches

/-! ## Circles -/

namespace Circles

open Registry Script

/-- A pattern for circles that looks for dots, so it takes no circle and gives every one back. -/
def crooked : Pattern (Sample.shape.Value PayloadType.Val) Sample.shape.Tag Unit where
  tag := circle
  peek? := (dot.pattern _).peek?
  take := (dot.pattern _).take

/-- A handler that takes circles, replaced by one that does not, and a fallback. -/
def crookedCalls :
    List (Registration String Nat (Sample.shape.Value PayloadType.Val) Sample.shape.Tag Int) :=
  [.handle (circle.pattern _) fun _ => Act.panic "replaced",
    .handle crooked fun _ => Act.panic "crooked",
    .orElse (Act.panic "fallback")]

/-- The same with an open chain in place of the last handler. -/
def crookedChains : List
    (PartialRegistration String Nat (Sample.shape.Value PayloadType.Val) Sample.shape.Tag Int) :=
  [.handle (circle.pattern _) fun _ => Act.panic "replaced",
    .openChain { pattern := crooked },
    .orElse (Act.panic "fallback")]

theorem crooked_givesBack : crooked.GivesBack := (pattern_lawful dot).givesBack

theorem crooked_failsAt_seven : crooked.FailsAt seven := ⟨seven, rfl⟩

theorem crookedCalls_foreign : ∀ call ∈ crookedCalls, call.CodeIn fun _ x => x.Foreign := by
  simp only [crookedCalls, List.forall_mem_cons, Registration.CodeIn]
  exact ⟨fun _ => Act.foreign_panic _, fun _ => Act.foreign_panic _, Act.foreign_panic _, by simp⟩

theorem wrong_branch_seven :
    (∃ expected found, ((Table.ofRegistrations crookedCalls).dispatch seven 0).ending =
        .defective (.branchKeyMismatch expected found)) ∧
      (Table.ofRegistrations crookedCalls).dispatch seven 0 =
        ⟨.defective (.branchKeyMismatch "Circle" "Circle"), 0,
          [.notice (.dispatch "Circle"),
            .notice (.defect (Error.branchKeyMismatch "Circle" "Circle").message)]⟩ ∧
      (PartialTable.ofRegistrations crookedChains).dispatch seven 0 =
        ⟨.defective (.branchKeyMismatch "Circle" "Circle"), 0,
          [.notice (.dispatch "Circle"),
            .notice (.defect (Error.branchKeyMismatch "Circle" "Circle").message)]⟩ := by
  have hcircle : (circle.pattern PayloadType.Val).GivesBack := (pattern_lawful circle).givesBack
  have hcalls : ∀ call ∈ crookedCalls, call.PatternIn fun _ p => p.GivesBack := by
    simp only [crookedCalls, List.forall_mem_cons, Registration.PatternIn]
    exact ⟨hcircle, crooked_givesBack, trivial, by simp⟩
  have hchains : ∀ call ∈ crookedChains, call.PatternIn fun _ p => p.GivesBack := by
    simp only [crookedChains, List.forall_mem_cons, PartialRegistration.PatternIn]
    exact ⟨hcircle, crooked_givesBack, trivial, by simp⟩
  obtain ⟨htable, hpartial⟩ := wrong_branch_iff_mismatched (ε := String) (R := Int) seven 0
  obtain ⟨-, hforeign, hcalls_run⟩ := htable crookedCalls hcalls
  obtain ⟨-, -, hchains_run⟩ := hpartial crookedChains hchains
  have hmismatched : Table.Mismatched crookedCalls seven :=
    ⟨.handle crooked fun _ => Act.panic "crooked", rfl, crooked_failsAt_seven⟩
  have hmismatched' : PartialTable.Mismatched crookedChains seven :=
    ⟨.openChain { pattern := crooked }, rfl, crooked_failsAt_seven⟩
  exact ⟨(hforeign crookedCalls_foreign).mpr hmismatched, (hcalls_run hmismatched).2,
    (hchains_run hmismatched').2⟩

end Circles

end TagDispatch
