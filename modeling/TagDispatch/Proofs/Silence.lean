import TagDispatch.Proofs.Coverage

/-!
# Tables that run nothing

A partial table may answer nothing without running a guard, a handler, a default or a fallback.
That none of them is run cannot be read off a run, for what is run may leave no trace. It shows when
other code is put in their place, `PartialRegistration.recode`: `PartialTable.SilentAt` says that
the table answers nothing whatever that code is.

A table is silent at the values of its uncovered tags. It is also silent where an open chain without
cases takes the payload, `PartialRegistration.IdleAt`, and the tag of such a chain is not uncovered.
-/

namespace TagDispatch

variable {ε σ V T P R : Type}

/-! ## Other code in place of the code -/

section Recode

variable (g : (α : Type) → Act ε σ α → Act ε σ α)

/-- The case with its guard and its handler replaced. -/
def Case.recode (c : Case ε σ P R) : Case ε σ P R where
  guard x := g Bool (c.guard x)
  handler x := g R (c.handler x)

/-- The cases with their guards and their handlers replaced. -/
def Cases.recode (cs : Cases ε σ V T P R) : Cases ε σ V T P R where
  pattern := cs.pattern
  cases := cs.cases.map (Case.recode g)

namespace PartialRegistration

/-- The call with all its code replaced: the pattern is the same, and so is the number of cases. -/
def recode : PartialRegistration ε σ V T R → PartialRegistration ε σ V T R
  | handle p handler => .handle p fun x => g R (handler x)
  | openChain cs => .openChain (cs.recode g)
  | closedChain cs default => .closedChain (cs.recode g) fun x => g R (default x)
  | orElse f => .orElse (g R f)

theorem tag?_recode (call : PartialRegistration ε σ V T R) :
    (call.recode g).tag? = call.tag? := by
  cases call <;> rfl

theorem fallback?_recode (call : PartialRegistration ε σ V T R) :
    (call.recode g).fallback? = call.fallback?.map (g R) := by
  cases call <;> rfl

/-- Code that is replaced by itself leaves the call as it is. -/
theorem recode_self (call : PartialRegistration ε σ V T R) :
    call.recode (fun _ x => x) = call := by
  have hcases : ∀ {P : Type} (cs : Cases ε σ V T P R), cs.recode (fun _ x => x) = cs := by
    intro P cs
    show Cases.mk cs.pattern (cs.cases.map id) = cs
    rw [List.map_id]
  cases call with
  | handle p handler => rfl
  | openChain cs => rw [recode, hcases]
  | closedChain cs default => rw [recode, hcases]
  | orElse f => rfl

/-- Replacing the code of all calls replaces that of the last call for every tag. -/
theorem lastCall_map_recode [DecidableEq T] (calls : List (PartialRegistration ε σ V T R)) (t : T) :
    lastCall tag? (calls.map (recode g)) t = (lastCall tag? calls t).map (recode g) :=
  lastCall_map (tag?_recode g)

/-- Replacing the code of all calls replaces the last fallback. -/
theorem fallback_map_recode (calls : List (PartialRegistration ε σ V T R)) :
    (calls.map (recode g)).findSomeRev? fallback? = (calls.findSomeRev? fallback?).map (g R) :=
  findSomeRev?_map (fallback?_recode g)

end PartialRegistration

end Recode

/-- Cases whose code panics panic, if there is one, and else if the default does. -/
theorem runCases_panicking (text : String) (default : P → Act ε σ (Option R)) (x : P)
    {cases : List (Case ε σ P R)} (h : cases ≠ [] ∨ default x = Act.panic text) :
    runCases default x ((cases.map (Case.recode fun _ _ => Act.panic text)).map Case.optional) =
      Act.panic text := by
  cases cases with
  | nil => exact h.resolve_left fun hne => hne rfl
  | cons c rest => rfl

/-! ## Calls that run nothing -/

/-- What follows a demand for a payload has a result only on a payload that was taken. -/
theorem Pattern.exists_take_of_demand_bind [Tagged V T] [Tag T] {p : Pattern V T P} {v : V}
    {body : P → Act ε σ R} {s : σ} {r : R}
    (h : ((p.demand v >>= body) s).ending = .done r) :
    ∃ x, p.take v = .ok x ∧ (body x s).ending = .done r := by
  cases htake : p.take v with
  | error v' =>
    rw [Pattern.demand_of_error htake] at h
    cases h
  | ok x =>
    rw [Pattern.demand_of_take htake, pure_bind] at h
    exact ⟨x, rfl, h⟩

namespace PartialRegistration

/-- The call is an open chain without cases that takes the payload of the value. -/
def IdleAt (v : V) : PartialRegistration ε σ V T R → Prop
  | openChain cs => cs.cases = [] ∧ ∃ x, cs.pattern.take v = .ok x
  | _ => False

variable [Tagged V T] [Tag T] {call : PartialRegistration ε σ V T R} {v : V} {s : σ}

/-- An idle call answers nothing, whatever its code is replaced by. -/
theorem IdleAt.answer_recode (h : call.IdleAt v) (g : (α : Type) → Act ε σ α → Act ε σ α) :
    (call.recode g).optional.answer v = pure none := by
  cases call with
  | openChain cs =>
    obtain ⟨hcases, x, htake⟩ := h
    have hbody : (openChain (cs.recode g)).optional.Executes v
        (runCases (fun _ => pure none) x (cs.recode g).optional.cases) := .chain htake
    have hnil : (cs.recode g).optional.cases = [] := by
      simp [Cases.recode, Cases.optional, hcases]
    show (openChain (cs.recode g)).optional.answer v = pure none
    rw [Registration.answer_of_executes hbody, hnil]
    rfl
  | handle p handler => exact h.elim
  | closedChain cs default => exact h.elim
  | orElse f => exact h.elim

/-- If an answer is nothing although all code of the call panics, the call is idle. -/
theorem idleAt_of_panicking {text : String}
    (h : ((call.recode fun _ _ => Act.panic text).optional.answer v s).ending = .done none) :
    call.IdleAt v := by
  cases call with
  | handle p handler =>
    obtain ⟨x, -, hbody⟩ := Pattern.exists_take_of_demand_bind h
    cases hbody
  | openChain cs =>
    obtain ⟨x, htake, hbody⟩ := Pattern.exists_take_of_demand_bind h
    have hcases : cs.cases = [] := by
      by_contra hcases
      change (runCases _ x ((cs.cases.map (Case.recode _)).map Case.optional) s).ending = _ at hbody
      rw [runCases_panicking text _ x (Or.inl hcases)] at hbody
      cases hbody
    exact ⟨hcases, x, htake⟩
  | closedChain cs default =>
    obtain ⟨x, -, hbody⟩ := Pattern.exists_take_of_demand_bind h
    change (runCases _ x ((cs.cases.map (Case.recode _)).map Case.optional) s).ending = _ at hbody
    rw [runCases_panicking text _ x (Or.inr rfl)] at hbody
    cases hbody
  | orElse f => cases h

end PartialRegistration

/-! ## Silent tables -/

namespace PartialTable

variable [DecidableEq T]

/-- The uncovered tags of a partial table are those of the table with optional results. -/
theorem uncovered_toTable (table : PartialTable ε σ V T R) (tags : List T) :
    table.toTable.uncovered tags = table.uncovered tags := by
  unfold Table.uncovered uncovered toTable
  rw [Option.isSome_map]

/-- A list is checked tag by tag, and keeps its order and its repeats. -/
theorem uncovered_eq_filter (table : PartialTable ε σ V T R) (tags : List T) :
    table.uncovered tags = tags.filter fun t => t ∈ table.uncovered [t] := by
  unfold uncovered
  cases table.fallback with
  | some f => simp
  | none =>
    refine List.filter_congr fun t _ => ?_
    cases hentry : table.entries.contains t <;> simp [hentry]

variable [Tagged V T] [Tag T] {calls : List (PartialRegistration ε σ V T R)}
variable {call : PartialRegistration ε σ V T R} {v : V} {s : σ}
variable {g : (α : Type) → Act ε σ α → Act ε σ α}

/-- A tag alone is uncovered if no call registers it and none sets a fallback. -/
theorem mem_uncovered_singleton {t : T} :
    t ∈ (ofRegistrations calls).uncovered [t] ↔
      lastCall PartialRegistration.tag? calls t = none ∧
        calls.findSomeRev? PartialRegistration.fallback? = none := by
  rw [← uncovered_toTable, toTable_ofRegistrations, Table.mem_uncovered_singleton,
    PartialRegistration.lastCall_map_optional, PartialRegistration.fallback_map_optional,
    Option.map_eq_none_iff, Option.map_eq_none_iff]

/-- The run of the table that the calls build with their code replaced. -/
def recodedRun (calls : List (PartialRegistration ε σ V T R))
    (g : (α : Type) → Act ε σ α → Act ε σ α) (v : V) (s : σ) : Run ε σ (Option R) :=
  (ofRegistrations (calls.map (PartialRegistration.recode g))).dispatch v s

/-- With the code that stands in the calls it is the run of the table that they build. -/
theorem recodedRun_self (calls : List (PartialRegistration ε σ V T R)) (v : V) (s : σ) :
    recodedRun calls (fun _ x => x) v s = (ofRegistrations calls).dispatch v s := by
  have hcalls : calls.map (PartialRegistration.recode fun _ x => x) = calls := by
    rw [funext PartialRegistration.recode_self, List.map_id']
  rw [recodedRun, hcalls]

/-- The table that the calls build answers nothing, whatever code stands in them. -/
def SilentAt (calls : List (PartialRegistration ε σ V T R)) (v : V) (s : σ) : Prop :=
  ∀ g : (α : Type) → Act ε σ α → Act ε σ α, (recodedRun calls g v s).ending = .done none

/-- The last call for the tag of the value is idle. -/
def IdleAt (calls : List (PartialRegistration ε σ V T R)) (v : V) : Prop :=
  ∃ call, lastCall PartialRegistration.tag? calls (tag v) = some call ∧ call.IdleAt v

/-- Whatever code stands in the calls, a value with an uncovered tag is noted as absent, and nothing
else happens. -/
theorem recodedRun_of_uncovered (h : tag v ∈ (ofRegistrations calls).uncovered [tag v]) :
    recodedRun calls g v s = ⟨.done none, s, [.notice (.absent (Tag.name (tag v)))]⟩ := by
  obtain ⟨hlast, hf⟩ := mem_uncovered_singleton.mp h
  have hlast' : lastCall PartialRegistration.tag?
      (calls.map (PartialRegistration.recode g)) (tag v) = none := by
    rw [PartialRegistration.lastCall_map_recode, hlast]
    rfl
  have hf' : (calls.map (PartialRegistration.recode g)).findSomeRev?
      PartialRegistration.fallback? = none := by
    rw [PartialRegistration.fallback_map_recode, hf]
    rfl
  rw [recodedRun, dispatch_of_nothing hlast' hf']
  rfl

/-- The last call for the tag answers with its code replaced. -/
theorem recodedRun_of_lastCall
    (h : lastCall PartialRegistration.tag? calls (tag v) = some call) :
    recodedRun calls g v s =
      (Act.notice (.dispatch (Tag.name (tag v))) >>= fun _ =>
        (call.recode g).optional.answer v) s := by
  have hlast : lastCall PartialRegistration.tag?
      (calls.map (PartialRegistration.recode g)) (tag v) = some (call.recode g) := by
    rw [PartialRegistration.lastCall_map_recode, h]
    rfl
  rw [recodedRun, dispatch_of_lastCall hlast]

/-- Whatever code stands in the calls, a value at which the table is idle is dispatched, and nothing
else happens. -/
theorem recodedRun_of_idleAt (h : IdleAt calls v) :
    recodedRun calls g v s = ⟨.done none, s, [.notice (.dispatch (Tag.name (tag v)))]⟩ := by
  obtain ⟨call, hlast, hidle⟩ := h
  rw [recodedRun_of_lastCall hlast, hidle.answer_recode]
  rfl

/-- A table is silent at a value exactly if the tag of the value is uncovered or the table is idle
there. -/
theorem silentAt_iff :
    SilentAt calls v s ↔ tag v ∈ (ofRegistrations calls).uncovered [tag v] ∨ IdleAt calls v := by
  constructor
  · intro hsilent
    -- code that panics tells a table that runs it from one that does not
    have hpanic := hsilent fun _ _ => Act.panic "code"
    cases hlast : lastCall PartialRegistration.tag? calls (tag v) with
    | some call =>
      rw [recodedRun_of_lastCall hlast, Act.notice_bind_apply] at hpanic
      exact Or.inr ⟨call, hlast, PartialRegistration.idleAt_of_panicking hpanic⟩
    | none =>
      cases hf : calls.findSomeRev? PartialRegistration.fallback? with
      | none => exact Or.inl (mem_uncovered_singleton.mpr ⟨hlast, hf⟩)
      | some f =>
        have hlast' := PartialRegistration.lastCall_map_recode
          (fun _ _ => Act.panic "code") calls (tag v)
        have hf' := PartialRegistration.fallback_map_recode (fun _ _ => Act.panic "code") calls
        rw [hlast] at hlast'
        rw [hf] at hf'
        rw [recodedRun, dispatch_of_fallback hlast' hf'] at hpanic
        cases hpanic
  · rintro (huncovered | hidle) g
    · rw [recodedRun_of_uncovered huncovered]
    · rw [recodedRun_of_idleAt hidle]

/-- A tag whose last call is idle is not uncovered. -/
theorem IdleAt.notMem_uncovered (h : IdleAt calls v) :
    tag v ∉ (ofRegistrations calls).uncovered [tag v] := by
  obtain ⟨call, hlast, -⟩ := h
  intro huncovered
  have hnone := (mem_uncovered_singleton.mp huncovered).1
  rw [hlast] at hnone
  cases hnone

/-- **Silence.** A partial table answers nothing for a value without running a guard, a handler, a
default or a fallback exactly if the tag of the value is uncovered or the last call for it is an
open chain without cases that takes the payload; never both, and the notice tells which. The
uncovered tags of a list are those that are uncovered alone, in order and with repeats. -/
theorem silentAt_iff_uncovered_or_idle (calls : List (PartialRegistration ε σ V T R)) :
    (∀ v s, SilentAt calls v s ↔
      tag v ∈ (ofRegistrations calls).uncovered [tag v] ∨ IdleAt calls v) ∧
    (∀ v s, tag v ∈ (ofRegistrations calls).uncovered [tag v] →
      (ofRegistrations calls).dispatch v s =
        ⟨.done none, s, [.notice (.absent (Tag.name (tag v)))]⟩) ∧
    (∀ v s, IdleAt calls v →
      tag v ∉ (ofRegistrations calls).uncovered [tag v] ∧
      (ofRegistrations calls).dispatch v s =
        ⟨.done none, s, [.notice (.dispatch (Tag.name (tag v)))]⟩) ∧
    ∀ tags, (ofRegistrations calls).uncovered tags =
      tags.filter fun t => t ∈ (ofRegistrations calls).uncovered [t] := by
  refine ⟨fun v s => silentAt_iff, fun v s huncovered => ?_,
    fun v s hidle => ⟨hidle.notMem_uncovered, ?_⟩, uncovered_eq_filter _⟩
  · rw [← recodedRun_self]
    exact recodedRun_of_uncovered huncovered
  · rw [← recodedRun_self]
    exact recodedRun_of_idleAt hidle

end PartialTable

/-! ## Circles -/

namespace Circles

open Registry Script

/-- An open chain for circles without cases. -/
def idleCalls : List
    (PartialRegistration String Nat (Sample.shape.Value PayloadType.Val) Sample.shape.Tag Int) :=
  [.openChain { pattern := circle.pattern _ }]

/-- A dot. -/
def point : Sample.shape.Value PayloadType.Val where
  tag := dot
  payload := ()

/-- Circles are let through and dots are absent; nothing is run on either. -/
theorem idleCalls_silent :
    (PartialTable.ofRegistrations idleCalls).dispatch seven 0 =
        ⟨.done none, 0, [.notice (.dispatch "Circle")]⟩ ∧
      (PartialTable.ofRegistrations idleCalls).dispatch point 0 =
        ⟨.done none, 0, [.notice (.absent "Dot")]⟩ ∧
      PartialTable.SilentAt idleCalls point 0 := by
  obtain ⟨hsilent, habsent, hthrough, -⟩ := PartialTable.silentAt_iff_uncovered_or_idle idleCalls
  have hidle : PartialTable.IdleAt idleCalls seven :=
    ⟨.openChain { pattern := circle.pattern _ }, rfl, rfl, seven.payload, rfl⟩
  have huncovered : tag point ∈ (PartialTable.ofRegistrations idleCalls).uncovered [tag point] := by
    decide
  exact ⟨(hthrough seven 0 hidle).2, habsent point 0 huncovered,
    (hsilent point 0).mpr (Or.inl huncovered)⟩

/-- Nothing is run on a circle, although its tag is not uncovered. -/
theorem idle_chain_silent_and_covered :
    PartialTable.SilentAt idleCalls seven 0 ∧
      ¬ (tag seven ∈ (PartialTable.ofRegistrations idleCalls).uncovered [tag seven] ↔
        PartialTable.SilentAt idleCalls seven 0) := by
  have hsilent : PartialTable.SilentAt idleCalls seven 0 := fun g => rfl
  have hcovered : tag seven ∉ (PartialTable.ofRegistrations idleCalls).uncovered [tag seven] := by
    decide
  exact ⟨hsilent, fun h => hcovered (h.mpr hsilent)⟩

end Circles

end TagDispatch
