import TagDispatch.Proofs.Dispatch

/-!
# Partial tables as tables with optional results

A partial table is an exhaustive table whose results are optional: what its handlers give is
wrapped, an open chain is closed by a default that gives nothing, and a table without a fallback
falls back to nothing. `PartialTable.toTable` reads a partial table that way and
`PartialRegistration.optional` the calls that build it; `PartialTable.toTable_register` says that
one call keeps the two readings in step, and so do all calls together.

The one difference is in the notices, when a value has neither an entry nor a fallback.
-/

namespace TagDispatch

variable {ε σ V T P R : Type}

/-! ## Cases with optional results -/

/-- The case with its result wrapped. -/
def Case.optional (c : Case ε σ P R) : Case ε σ P (Option R) where
  guard := c.guard
  handler x := some <$> c.handler x

/-- The cases with their results wrapped. -/
def Cases.optional (cs : Cases ε σ V T P R) : Cases ε σ V T P (Option R) where
  pattern := cs.pattern
  cases := cs.cases.map Case.optional

/-- Without a default, cases run like wrapped cases whose default gives nothing. -/
theorem runCases?_eq_runCases (x : P) (cases : List (Case ε σ P R)) :
    runCases? x cases = runCases (fun _ => pure none) x (cases.map Case.optional) := by
  induction cases with
  | nil => rfl
  | cons c rest ih =>
    rw [List.map_cons, runCases?, runCases, ih]
    simp only [Case.optional, bind_pure_comp]

/-- Wrapping the result of a run of cases wraps the result of each. -/
theorem map_runCases (default : P → Act ε σ R) (x : P) (cases : List (Case ε σ P R)) :
    some <$> runCases default x cases =
      runCases (fun x => some <$> default x) x (cases.map Case.optional) := by
  induction cases with
  | nil => rfl
  | cons c rest ih =>
    rw [List.map_cons, runCases, runCases, map_bind]
    refine congrArg (c.guard x >>= ·) (funext fun accepted => ?_)
    cases accepted with
    | false => exact ih
    | true => rfl

theorem Case.CodeIn.optional {Q : (α : Type) → Act ε σ α → Prop} (hQ : Act.Compositional Q)
    {c : Case ε σ P R} (hc : c.CodeIn Q) : c.optional.CodeIn Q where
  guard := hc.guard
  handler x := hQ.ofMap (hc.handler x) some

/-! ## Calls with optional results -/

namespace PartialRegistration

/-- The pattern of the call, if there is one, is among those that `Q` admits. -/
def PatternIn (Q : (P : Type) → Pattern V T P → Prop) : PartialRegistration ε σ V T R → Prop
  | handle p _ => Q _ p
  | openChain cs => Q _ cs.pattern
  | closedChain cs _ => Q _ cs.pattern
  | orElse _ => True

/-- The code of the call has the property. -/
def CodeIn (Q : (α : Type) → Act ε σ α → Prop) : PartialRegistration ε σ V T R → Prop
  | handle _ handler => ∀ x, Q R (handler x)
  | openChain cs => ∀ c ∈ cs.cases, c.CodeIn Q
  | closedChain cs default => (∀ c ∈ cs.cases, c.CodeIn Q) ∧ ∀ x, Q R (default x)
  | orElse f => Q R f

/-- The fallback that the call sets, if it sets one. -/
def fallback? : PartialRegistration ε σ V T R → Option (Act ε σ R)
  | orElse f => some f
  | _ => none

/-- The call for an exhaustive table with optional results. -/
def optional : PartialRegistration ε σ V T R → Registration ε σ V T (Option R)
  | handle p handler => .handle p fun x => some <$> handler x
  | openChain cs => .chain cs.optional fun _ => pure none
  | closedChain cs default => .chain cs.optional fun x => some <$> default x
  | orElse f => .orElse (some <$> f)

/-- The calls for an exhaustive table with optional results, which falls back to nothing unless a
call sets a fallback. -/
def optionalCalls (calls : List (PartialRegistration ε σ V T R)) :
    List (Registration ε σ V T (Option R)) :=
  calls.map optional ++ if calls.any (·.fallback?.isSome) then [] else [.orElse (pure none)]

theorem tag?_optional (call : PartialRegistration ε σ V T R) : call.optional.tag? = call.tag? := by
  cases call <;> rfl

theorem fallback?_optional (call : PartialRegistration ε σ V T R) :
    call.optional.fallback? = call.fallback?.map (some <$> ·) := by
  cases call <;> rfl

/-- A weaker condition on patterns is a weaker one on the call. -/
theorem PatternIn.imp {Q Q' : (P : Type) → Pattern V T P → Prop}
    {call : PartialRegistration ε σ V T R}
    (himp : ∀ {P : Type} {p : Pattern V T P}, Q P p → Q' P p) (h : call.PatternIn Q) :
    call.PatternIn Q' := by
  cases call with
  | handle p handler => exact himp h
  | openChain cs => exact himp h
  | closedChain cs default => exact himp h
  | orElse f => trivial

/-- Wrapping the result of a call leaves its pattern as it is. -/
theorem patternIn_optional_iff {Q : (P : Type) → Pattern V T P → Prop}
    {call : PartialRegistration ε σ V T R} : call.optional.PatternIn Q ↔ call.PatternIn Q := by
  cases call <;> rfl

/-- A weaker condition on code is a weaker one on the code of the call. -/
theorem CodeIn.imp {Q Q' : (α : Type) → Act ε σ α → Prop} {call : PartialRegistration ε σ V T R}
    (himp : ∀ {α : Type} {x : Act ε σ α}, Q α x → Q' α x) (h : call.CodeIn Q) :
    call.CodeIn Q' := by
  cases call with
  | handle p handler => exact fun x => himp (h x)
  | openChain cs => exact fun c hc => (h c hc).imp himp
  | closedChain cs default => exact ⟨fun c hc => (h.1 c hc).imp himp, fun x => himp (h.2 x)⟩
  | orElse f => exact himp h

theorem CodeIn.optional {Q : (α : Type) → Act ε σ α → Prop} (hQ : Act.Compositional Q)
    {call : PartialRegistration ε σ V T R} (h : call.CodeIn Q) : call.optional.CodeIn Q := by
  have hcases : ∀ {P : Type} {cases : List (Case ε σ P R)}, (∀ c ∈ cases, c.CodeIn Q) →
      ∀ c ∈ cases.map Case.optional, c.CodeIn Q := by
    intro P cases hc c hmem
    obtain ⟨c', hmem', rfl⟩ := List.mem_map.mp hmem
    exact (hc c' hmem').optional hQ
  cases call with
  | handle p handler => exact fun x => hQ.ofMap (h x) some
  | openChain cs => exact ⟨hcases h, fun _ => hQ.ofResult none⟩
  | closedChain cs default => exact ⟨hcases h.1, fun x => hQ.ofMap (h.2 x) some⟩
  | orElse f => exact hQ.ofMap h some

/-- A fallback is code of the call that sets it. -/
theorem codeIn_of_fallback? {Q : (α : Type) → Act ε σ α → Prop}
    {call : PartialRegistration ε σ V T R} {f : Act ε σ R} (h : call.fallback? = some f)
    (hcall : call.CodeIn Q) : Q R f := by
  cases call with
  | orElse g =>
    cases h
    exact hcall
  | handle p handler => cases h
  | openChain cs => cases h
  | closedChain cs default => cases h

/-- The last fallback of some calls is code of one of them. -/
theorem codeIn_of_lastFallback {Q : (α : Type) → Act ε σ α → Prop}
    {calls : List (PartialRegistration ε σ V T R)} {f : Act ε σ R}
    (hf : calls.findSomeRev? fallback? = some f) (hcode : ∀ call ∈ calls, call.CodeIn Q) :
    Q R f := by
  obtain ⟨call, hcall, hfallback⟩ := exists_mem_of_findSomeRev? hf
  exact codeIn_of_fallback? hfallback (hcode call hcall)

/-- Wrapping all calls wraps the last call for every tag. -/
theorem lastCall_map_optional [DecidableEq T] (calls : List (PartialRegistration ε σ V T R))
    (t : T) :
    lastCall Registration.tag? (calls.map optional) t = (lastCall tag? calls t).map optional :=
  lastCall_map tag?_optional

/-- The optional calls have the last call for every tag in common with the calls. -/
theorem lastCall_optionalCalls [DecidableEq T] (calls : List (PartialRegistration ε σ V T R))
    (t : T) :
    lastCall Registration.tag? (optionalCalls calls) t = (lastCall tag? calls t).map optional := by
  unfold optionalCalls
  split
  · rw [List.append_nil, lastCall_map_optional]
  · -- the added fallback is a call for no tag
    rw [lastCall_append_singleton, if_neg (by simp [Registration.tag?]), lastCall_map_optional]

/-- Wrapping all calls wraps the last fallback. -/
theorem fallback_map_optional (calls : List (PartialRegistration ε σ V T R)) :
    (calls.map optional).findSomeRev? Registration.fallback? =
      (calls.findSomeRev? fallback?).map (some <$> ·) :=
  findSomeRev?_map fallback?_optional

/-- A fallback that a call sets is the fallback of the optional calls. -/
theorem fallback_optionalCalls_of_some {calls : List (PartialRegistration ε σ V T R)}
    {f : Act ε σ R} (hf : calls.findSomeRev? fallback? = some f) :
    (optionalCalls calls).findSomeRev? Registration.fallback? = some (some <$> f) := by
  have hany : calls.any (·.fallback?.isSome) = true := by
    obtain ⟨call, hcall, hfallback⟩ := exists_mem_of_findSomeRev? hf
    exact List.any_eq_true.mpr ⟨call, hcall, by rw [hfallback]; rfl⟩
  rw [optionalCalls, if_pos hany, List.append_nil, fallback_map_optional, hf]
  rfl

/-- If no call sets a fallback, the optional calls fall back to nothing. -/
theorem fallback_optionalCalls_of_none {calls : List (PartialRegistration ε σ V T R)}
    (hf : calls.findSomeRev? fallback? = none) :
    (optionalCalls calls).findSomeRev? Registration.fallback? = some (pure none) := by
  have hany : ¬ calls.any (·.fallback?.isSome) = true := by
    intro h
    obtain ⟨call, hcall, hfallback⟩ := List.any_eq_true.mp h
    rw [findSomeRev?_eq_none_iff.mp hf call hcall] at hfallback
    cases hfallback
  rw [optionalCalls, if_neg hany, findSomeRev?_append_singleton]
  rfl

end PartialRegistration

/-! ## Partial tables read as tables -/

namespace PartialTable

variable [Tagged V T] [DecidableEq T] [Tag T]

omit [Tagged V T] [DecidableEq T] [Tag T] in
/-- The table with optional results that holds the same entries. -/
def toTable (table : PartialTable ε σ V T R) : Table ε σ V T (Option R) where
  entries := table.entries
  fallback := table.fallback.map (some <$> ·)

/-- One call keeps a partial table and its reading as a table in step. -/
theorem toTable_register (table : PartialTable ε σ V T R) (call : PartialRegistration ε σ V T R) :
    (table.register call).toTable = table.toTable.register call.optional := by
  -- both sides insert one entry for the same tag; the entries agree as computations
  cases call with
  | handle p handler =>
    simp only [register, handle, toTable, PartialRegistration.optional, Table.register,
      Table.handle, bind_pure_comp]
  | openChain cs =>
    simp only [register, handleChain, Cases.leaveOpen, toTable, PartialRegistration.optional,
      Table.register, Table.handleChain, Cases.close, Cases.optional, runCases?_eq_runCases]
  | closedChain cs default =>
    simp only [register, handleChain, ClosedChain.toOpen, toTable, PartialRegistration.optional,
      Table.register, Table.handleChain, Cases.close, Cases.optional, bind_pure_comp, map_bind,
      map_runCases]
  | orElse f => rfl

theorem ofRegistrations_append_singleton (calls : List (PartialRegistration ε σ V T R))
    (call : PartialRegistration ε σ V T R) :
    ofRegistrations (calls ++ [call]) = (ofRegistrations calls).register call := by
  rw [ofRegistrations, List.foldl_append]
  rfl

/-- All calls together keep the two readings in step. -/
theorem toTable_ofRegistrations (calls : List (PartialRegistration ε σ V T R)) :
    (ofRegistrations calls).toTable =
      Table.ofRegistrations (calls.map PartialRegistration.optional) := by
  induction calls using List.reverseRecOn with
  | nil => rfl
  | append_singleton calls call ih =>
    rw [List.map_append, List.map_singleton, Table.ofRegistrations_append_singleton, ← ih,
      ← toTable_register, ofRegistrations_append_singleton]

/-- For every tag the table holds what the last call for it registered. -/
theorem find?_ofRegistrations (calls : List (PartialRegistration ε σ V T R)) (t : T) :
    (ofRegistrations calls).entries.find? t =
      (lastCall PartialRegistration.tag? calls t).map fun call => call.optional.answer := by
  show (ofRegistrations calls).toTable.entries.find? t = _
  rw [toTable_ofRegistrations, Table.find?_ofRegistrations,
    PartialRegistration.lastCall_map_optional, Option.map_map]
  rfl

/-- The table falls back to what the last call that set a fallback set. -/
theorem fallback_ofRegistrations (calls : List (PartialRegistration ε σ V T R)) :
    (ofRegistrations calls).fallback = calls.findSomeRev? PartialRegistration.fallback? := by
  induction calls using List.reverseRecOn with
  | nil => rfl
  | append_singleton calls call ih =>
    rw [ofRegistrations_append_singleton, findSomeRev?_append_singleton, ← ih]
    cases call <;> rfl

/-! ## Dispatching -/

variable {calls : List (PartialRegistration ε σ V T R)} {call : PartialRegistration ε σ V T R}
variable {v : V} {f : Act ε σ R}

/-- The last call for the tag of the value answers. -/
theorem dispatch_of_lastCall (h : lastCall PartialRegistration.tag? calls (tag v) = some call) :
    (ofRegistrations calls).dispatch v =
      Act.notice (.dispatch (Tag.name (tag v))) >>= fun _ => call.optional.answer v := by
  rw [dispatch, find?_ofRegistrations, h]
  rfl

/-- Without a call for the tag the last fallback runs. -/
theorem dispatch_of_fallback (h : lastCall PartialRegistration.tag? calls (tag v) = none)
    (hf : calls.findSomeRev? PartialRegistration.fallback? = some f) :
    (ofRegistrations calls).dispatch v =
      Act.notice (.fallback (Tag.name (tag v))) >>= fun _ => some <$> f := by
  rw [dispatch, find?_ofRegistrations, h, fallback_ofRegistrations, hf]
  simp only [Option.map_none, bind_pure_comp]

/-- Without a call for the tag and without a fallback nothing runs. -/
theorem dispatch_of_nothing (h : lastCall PartialRegistration.tag? calls (tag v) = none)
    (hf : calls.findSomeRev? PartialRegistration.fallback? = none) :
    (ofRegistrations calls).dispatch v =
      Act.notice (.absent (Tag.name (tag v))) >>= fun _ => pure none := by
  rw [dispatch, find?_ofRegistrations, h, fallback_ofRegistrations, hf]
  rfl

/-- Partial tables with the same last call for the tag of a value and the same fallback dispatch it
alike. -/
theorem dispatch_congr {calls' : List (PartialRegistration ε σ V T R)}
    (hlast : lastCall PartialRegistration.tag? calls (tag v) =
      lastCall PartialRegistration.tag? calls' (tag v))
    (hf : calls.findSomeRev? PartialRegistration.fallback? =
      calls'.findSomeRev? PartialRegistration.fallback?) :
    (ofRegistrations calls).dispatch v = (ofRegistrations calls').dispatch v := by
  rw [dispatch, dispatch, find?_ofRegistrations, find?_ofRegistrations, hlast,
    fallback_ofRegistrations, fallback_ofRegistrations, hf]

/-- A partial table raises a defect only if the last call for the tag does, or the code of its
calls. -/
theorem dispatch_avoids {e : Error} (hcode : ∀ call ∈ calls, call.CodeIn fun _ x => x.Avoids e)
    (hanswer : ∀ call, lastCall PartialRegistration.tag? calls (tag v) = some call →
      (call.optional.answer v).Avoids e) :
    ((ofRegistrations calls).dispatch v).Avoids e := by
  intro s
  cases hlast : lastCall PartialRegistration.tag? calls (tag v) with
  | some call =>
    rw [dispatch_of_lastCall hlast, Act.notice_bind_apply]
    exact hanswer call hlast s
  | none =>
    cases hf : calls.findSomeRev? PartialRegistration.fallback? with
    | some f =>
      have hfallback : f.Avoids e := PartialRegistration.codeIn_of_lastFallback hf hcode
      rw [dispatch_of_fallback hlast hf, Act.notice_bind_apply]
      exact (Act.avoids_compositional e).ofMap hfallback some s
    | none =>
      rw [dispatch_of_nothing hlast hf, Act.notice_bind_apply]
      simp

/-- If the patterns take the value where it carries their tags, a partial table raises a defect only
if the code of its calls does. -/
theorem dispatch_avoids_of_takesAt {e : Error}
    (htakes : ∀ call ∈ calls, call.PatternIn fun _ p => p.TakesAt v)
    (hcode : ∀ call ∈ calls, call.CodeIn fun _ x => x.Avoids e) :
    ((ofRegistrations calls).dispatch v).Avoids e := by
  refine dispatch_avoids hcode fun call hlast => ?_
  have hmem := mem_of_lastCall hlast
  have htag : call.optional.tag? = some (tag v) := by
    rw [PartialRegistration.tag?_optional, tag?_of_lastCall hlast]
  exact Registration.answer_of_takesAt (Act.avoids_compositional e) htag
    (PartialRegistration.patternIn_optional_iff.mpr (htakes call hmem))
    ((hcode call hmem).optional (Act.avoids_compositional e))

/-! ## Agreement -/

/-- With an entry or a fallback for the value the two tables dispatch alike. -/
theorem dispatch_eq_of_answered
    (h : (lastCall PartialRegistration.tag? calls (tag v)).isSome ∨
      (calls.findSomeRev? PartialRegistration.fallback?).isSome) :
    (ofRegistrations calls).dispatch v =
      (Table.ofRegistrations (PartialRegistration.optionalCalls calls)).dispatch v := by
  have hlast' := PartialRegistration.lastCall_optionalCalls calls (tag v)
  cases hlast : lastCall PartialRegistration.tag? calls (tag v) with
  | some call =>
    rw [hlast] at hlast'
    rw [dispatch_of_lastCall hlast, Table.dispatch_of_lastCall hlast']
  | none =>
    rw [hlast] at h hlast'
    obtain ⟨f, hf⟩ := Option.isSome_iff_exists.mp (h.resolve_left (by simp))
    have hf' := PartialRegistration.fallback_optionalCalls_of_some hf
    rw [dispatch_of_fallback hlast hf, Table.dispatch_of_fallback hlast' hf']

/-- Without an entry and a fallback for the value the table of the optional calls falls back to
nothing. -/
theorem dispatch_optionalCalls_of_nothing
    (h : lastCall PartialRegistration.tag? calls (tag v) = none)
    (hf : calls.findSomeRev? PartialRegistration.fallback? = none) :
    (Table.ofRegistrations (PartialRegistration.optionalCalls calls)).dispatch v =
      Act.notice (.fallback (Tag.name (tag v))) >>= fun _ => pure none := by
  have hlast' := PartialRegistration.lastCall_optionalCalls calls (tag v)
  rw [h] at hlast'
  exact Table.dispatch_of_fallback hlast' (PartialRegistration.fallback_optionalCalls_of_none hf)

/-- An open chain that takes the payload is all that runs. -/
theorem dispatch_of_openChain {cs : Cases ε σ V T P R} {x : P}
    (h : lastCall PartialRegistration.tag? calls (tag v) = some (.openChain cs))
    (htake : cs.pattern.take v = .ok x) :
    (ofRegistrations calls).dispatch v =
      Act.notice (.dispatch (Tag.name (tag v))) >>= fun _ => runCases? x cs.cases := by
  have hanswer : (PartialRegistration.openChain cs).optional.answer v = runCases? x cs.cases := by
    show (cs.pattern.demand v >>= _) = _
    rw [Pattern.demand_of_take htake, pure_bind, runCases?_eq_runCases]
    rfl
  rw [dispatch_of_lastCall h, hanswer]

/-- A partial table never misses a handler. -/
theorem dispatch_avoids_handlerKey {name : String}
    (hcode : ∀ call ∈ calls, call.CodeIn fun _ x => x.Avoids (.handlerKey name)) :
    ((ofRegistrations calls).dispatch v).Avoids (.handlerKey name) := by
  refine dispatch_avoids hcode fun call hlast => ?_
  have hcall := (hcode call (mem_of_lastCall hlast)).optional (Act.avoids_compositional _)
  exact Registration.answer_avoids_handlerKey hcall v

/-- **Agreement.** A partial table dispatches every value like the exhaustive table of the optional
calls, notices included; only where that table falls back to nothing because no call set a fallback,
the partial table notes the value as absent. So an open chain that lets the payload through gives
nothing whether or not there is a fallback, and no tag misses a handler. -/
theorem dispatch_eq_optionalCalls (calls : List (PartialRegistration ε σ V T R)) (v : V) :
    ((lastCall PartialRegistration.tag? calls (tag v)).isSome ∨
        (calls.findSomeRev? PartialRegistration.fallback?).isSome →
      (ofRegistrations calls).dispatch v =
        (Table.ofRegistrations (PartialRegistration.optionalCalls calls)).dispatch v) ∧
    (lastCall PartialRegistration.tag? calls (tag v) = none →
      calls.findSomeRev? PartialRegistration.fallback? = none → ∀ s,
        (Table.ofRegistrations (PartialRegistration.optionalCalls calls)).dispatch v s =
            ⟨.done none, s, [.notice (.fallback (Tag.name (tag v)))]⟩ ∧
          (ofRegistrations calls).dispatch v s =
            ⟨.done none, s, [.notice (.absent (Tag.name (tag v)))]⟩) ∧
    (∀ {P : Type} (cs : Cases ε σ V T P R) (x : P) (s s' : σ) (log : List (Entry ε)),
      lastCall PartialRegistration.tag? calls (tag v) = some (.openChain cs) →
      cs.pattern.take v = .ok x → runCases? x cs.cases s = ⟨.done none, s', log⟩ →
      (ofRegistrations calls).dispatch v s =
        ⟨.done none, s', .notice (.dispatch (Tag.name (tag v))) :: log⟩) ∧
    ∀ name, (∀ call ∈ calls, call.CodeIn fun _ x => x.Avoids (.handlerKey name)) →
      ((ofRegistrations calls).dispatch v).Avoids (.handlerKey name) := by
  refine ⟨dispatch_eq_of_answered, fun h hf s => ⟨?_, ?_⟩, fun cs x s s' log h htake hrun => ?_,
    fun name => dispatch_avoids_handlerKey⟩
  · rw [dispatch_optionalCalls_of_nothing h hf]
    rfl
  · rw [dispatch_of_nothing h hf]
    rfl
  · rw [dispatch_of_openChain h htake, Act.notice_bind_apply, hrun]

end PartialTable

/-! ## Circles -/

namespace Circles

open Registry Script

/-- An open chain that lets circles through beside a fallback that panics. -/
def openCalls : List
    (PartialRegistration String Nat (Sample.shape.Value PayloadType.Val) Sample.shape.Tag Int) :=
  [.orElse (Act.panic "fallback"),
    .openChain
      { pattern := circle.pattern _
        cases := [{
          guard := fun _ => Act.update fun asked => (false, asked + 1)
          handler := fun _ => Act.panic "handler" }] }]

theorem openCalls_avoid (e : Error) : ∀ call ∈ openCalls, call.CodeIn fun _ x => x.Avoids e := by
  simp only [openCalls, List.forall_mem_cons, PartialRegistration.CodeIn]
  exact ⟨(Act.foreign_panic _).avoids e, ⟨⟨fun _ => (Act.foreign_update _).avoids e,
    fun _ => (Act.foreign_panic _).avoids e⟩, by simp⟩, by simp⟩

theorem dispatch_openCalls_seven :
    (PartialTable.ofRegistrations openCalls).dispatch seven =
        (Table.ofRegistrations (PartialRegistration.optionalCalls openCalls)).dispatch seven ∧
      (PartialTable.ofRegistrations openCalls).dispatch seven 0 =
        ⟨.done none, 1, [.notice (.dispatch "Circle")]⟩ ∧
      ((PartialTable.ofRegistrations openCalls).dispatch seven).Avoids (.handlerKey "Circle") ∧
      (PartialTable.ofRegistrations (R := Int) []).dispatch (ε := String) seven 0 =
        ⟨.done none, 0, [.notice (.absent "Circle")]⟩ := by
  obtain ⟨hagree, -, hopen, havoids⟩ := PartialTable.dispatch_eq_optionalCalls openCalls seven
  obtain ⟨-, hnothing, -, -⟩ :=
    PartialTable.dispatch_eq_optionalCalls (ε := String) (σ := Nat) (R := Int) [] seven
  exact ⟨hagree (Or.inl rfl), hopen _ _ 0 1 [] rfl rfl rfl, havoids _ (openCalls_avoid _),
    (hnothing rfl rfl 0).2⟩

end Circles

end TagDispatch
