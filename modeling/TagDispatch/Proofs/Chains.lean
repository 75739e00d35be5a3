import TagDispatch.Proofs.Arms

/-!
# Guard chains and conditionals

A chain takes the payload once and asks its guards about it in turn; a conditional looks for the
payload anew in every branch. Over a pattern that is lawful at the value the two agree: either every
branch finds the payload that the chain takes, and then `Case.first_branches_of_some` runs the
branches like the cases of the chain, or no branch finds one, and the value has not the tag of the
chain.
-/

namespace TagDispatch

variable {ε σ V T P R O : Type}

/-- The unfinished chain of some cases, added one after the other. -/
def Cases.ofList (p : Pattern V T P) (cases : List (Case ε σ P R)) : Cases ε σ V T P R :=
  cases.foldl (fun cs c => cs.add c.guard c.handler) { pattern := p }

/-- Cases that are added come after the others, in their order. -/
theorem Cases.foldl_add (cs : Cases ε σ V T P R) (cases : List (Case ε σ P R)) :
    cases.foldl (fun cs c => cs.add c.guard c.handler) cs =
      { cs with cases := cs.cases ++ cases } := by
  induction cases generalizing cs with
  | nil => simp
  | cons c rest ih =>
    rw [List.foldl_cons, ih]
    simp [Cases.add]

theorem Cases.ofList_eq (p : Pattern V T P) (cases : List (Case ε σ P R)) :
    Cases.ofList p cases = { pattern := p, cases } := by
  rw [Cases.ofList, Cases.foldl_add]
  rfl

/-! ## Cases as branches -/

section Branches

variable [Tagged V T] [Tag T] {v : V} {p : Pattern V T P} {x : P}

/-- A primary branch that asks a guard is a first further branch. -/
theorem Conditional.guarded_eq_rest (guard : P → Act ε σ Bool) (body : P → Act ε σ R)
    (branches : List (Act ε σ (Branch ε σ R))) (completion : Completion ε σ R O) :
    Conditional.guarded v p guard body branches completion =
      Conditional.rest (pure (Branch.ofGuard v p guard body) :: branches) completion := by
  rw [Conditional.rest, Branch.first_pure_cons, Branch.ofGuard, onPayload, onPayload,
    Conditional.guarded]
  cases p.peek? v with
  | none => simp [Branch.attempt, Conditional.rest]
  | some x =>
    simp only [Branch.attempt, Option.isSome_some, if_true, bind_assoc]
    refine congrArg (guard x >>= ·) (funext fun accepted => ?_)
    cases accepted with
    | false => simp [Conditional.rest]
    | true => simp

/-- The case as a branch of a conditional over a value. -/
def Case.branch (v : V) (p : Pattern V T P) (c : Case ε σ P R) : Branch ε σ R :=
  .ofGuard v p c.guard c.handler

/-- On a value without the payload no branch of a case fires. -/
theorem Case.first_branches_of_none (hx : p.peek? v = none) (cases : List (Case ε σ P R))
    (branches : List (Branch ε σ R)) :
    Branch.first (Branch.built (cases.map (Case.branch v p) ++ branches)) =
      Branch.first (Branch.built branches) := by
  induction cases with
  | nil => rfl
  | cons c rest ih =>
    show Branch.first (pure (c.branch v p) :: Branch.built (rest.map _ ++ branches)) = _
    rw [Branch.first_pure_cons, Case.branch, Branch.ofGuard, hx, Branch.attempt, ← ih]
    simp

/-- On a value with the payload the branches of cases run like the cases, with a default that does
what the branches after them do. -/
theorem Case.first_branches_of_some (hx : p.peek? v = some x) (cases : List (Case ε σ P R))
    {branches : List (Branch ε σ R)} (default : P → Act ε σ (Option R))
    (hdefault : Branch.first (Branch.built branches) = default x) :
    Branch.first (Branch.built (cases.map (Case.branch v p) ++ branches)) =
      runCases default x (cases.map Case.optional) := by
  induction cases with
  | nil => exact hdefault
  | cons c rest ih =>
    show Branch.first (pure (c.branch v p) :: Branch.built (rest.map _ ++ branches)) = _
    rw [Branch.first_pure_cons, List.map_cons, runCases, Case.branch, Branch.ofGuard, onPayload,
      onPayload, hx]
    simp only [Branch.attempt, Option.isSome_some, if_true, bind_assoc]
    -- the guard is asked on both sides, and its answer decides between the case and the rest
    refine congrArg (c.guard x >>= ·) (funext fun accepted => ?_)
    cases accepted with
    | false => simpa using ih
    | true => simp [Case.optional]

end Branches

/-! ## Chains and conditionals -/

namespace Cases

variable [Tagged V T] [Tag T]

/-- The conditional that asks the guards of cases in turn, the first in its primary branch, and then
tries other branches. -/
def conditional (v : V) (p : Pattern V T P) (first : Case ε σ P R) (rest : List (Case ε σ P R))
    (others : List (Branch ε σ R)) (completion : Completion ε σ R O) : Act ε σ O :=
  Conditional.guarded v p first.guard first.handler
    (Branch.built (rest.map (Case.branch v p) ++ others)) completion

variable {v : V} {p : Pattern V T P} {x : P} {first : Case ε σ P R} {rest : List (Case ε σ P R)}

theorem conditional_eq (others : List (Branch ε σ R)) (completion : Completion ε σ R O) :
    conditional v p first rest others completion =
      Branch.first (Branch.built ((first :: rest).map (Case.branch v p) ++ others)) >>=
        completion.complete := by
  rw [conditional, Conditional.guarded_eq_rest]
  rfl

/-- A branch for all payloads of the pattern, alone among the branches. -/
theorem first_ofPattern (default : P → Act ε σ R) :
    Branch.first (Branch.built [Branch.ofPattern v p default]) =
      (p.peek? v).elim (pure none) fun x => some <$> default x := by
  show Branch.first [pure (Branch.ofPattern v p default)] = _
  rw [Branch.first_pure_cons, Branch.ofPattern, onPayload]
  cases p.peek? v with
  | none => simp [Branch.attempt, Branch.first]
  | some x => simp [Branch.attempt]

/-- With a last branch for all payloads the conditional runs the cases with the body of that branch
as their default. -/
theorem conditional_ofPattern (default : P → Act ε σ R) (completion : Completion ε σ R O) :
    conditional v p first rest [.ofPattern v p default] completion =
      ((p.peek? v).elim (pure none) fun x => some <$> runCases default x (first :: rest)) >>=
        completion.complete := by
  have hlast := first_ofPattern (v := v) (p := p) default
  rw [conditional_eq]
  cases hx : p.peek? v with
  | none =>
    rw [hx] at hlast
    rw [Case.first_branches_of_none hx, hlast]
    rfl
  | some x =>
    rw [hx] at hlast
    rw [Case.first_branches_of_some hx _ (fun x => some <$> default x) hlast,
      Option.elim_some, map_runCases]

/-- Without such a branch the conditional runs the cases without a default. -/
theorem conditional_nil (completion : Completion ε σ R O) :
    conditional v p first rest [] completion =
      ((p.peek? v).elim (pure none) fun x => runCases? x (first :: rest)) >>=
        completion.complete := by
  rw [conditional_eq]
  cases hx : p.peek? v with
  | none =>
    rw [Case.first_branches_of_none hx]
    rfl
  | some x =>
    rw [Case.first_branches_of_some hx _ (fun _ => pure none) rfl, Option.elim_some,
      runCases?_eq_runCases]

/-! ## Agreement -/

variable [DecidableEq T]

/-- The exhaustive table of a closed chain and a fallback. -/
def closedTable (p : Pattern V T P) (cases : List (Case ε σ P R)) (default : P → Act ε σ R)
    (fallback : Act ε σ R) : Table ε σ V T R :=
  .ofRegistrations [.chain (ofList p cases) default, .orElse fallback]

/-- The partial table of an open chain. -/
def openTable (p : Pattern V T P) (cases : List (Case ε σ P R)) : PartialTable ε σ V T R :=
  .ofRegistrations [.openChain (ofList p cases)]

/-- A closed chain over a lawful pattern, beside a fallback, runs what the conditional over its
cases runs, after one notice. -/
theorem dispatch_closedTable (h : p.LawfulAt v) (default : P → Act ε σ R) (f : Act ε σ R) :
    ∃ n, (closedTable p (first :: rest) default f).dispatch v =
      Act.notice n >>= fun _ =>
        conditional v p first rest [.ofPattern v p default] (.orElse f) := by
  rw [conditional_ofPattern, closedTable, ofList_eq]
  cases hx : p.peek? v with
  | none =>
    have htag : p.tag ≠ tag v := (h.refuses hx).tag_ne
    have hlast : lastCall Registration.tag?
        [Registration.chain { pattern := p, cases := first :: rest } default, .orElse f]
        (tag v) = none :=
      lastCall_eq_none_iff.mpr (by simp [Registration.tag?, htag])
    refine ⟨.fallback (Tag.name (tag v)), ?_⟩
    rw [Table.dispatch_of_fallback hlast rfl]
    rfl
  | some x =>
    have hands := h.handsOver hx
    have htag : p.tag = tag v := hands.tag_eq
    have hlast : lastCall Registration.tag?
        [Registration.chain { pattern := p, cases := first :: rest } default, .orElse f]
        (tag v) = some (.chain { pattern := p, cases := first :: rest } default) :=
      lastCall_eq_some_iff.mpr
        ⟨congrArg some htag, [], [.orElse f], rfl, by simp [Registration.tag?]⟩
    have hanswer : (Registration.chain { pattern := p, cases := first :: rest } default).answer v =
        runCases default x (first :: rest) :=
      Registration.answer_of_executes (.chain hands.take_eq)
    refine ⟨.dispatch (Tag.name (tag v)), ?_⟩
    rw [Table.dispatch_of_lastCall hlast, hanswer]
    simp [Completion.orElse]

/-- An open chain over a lawful pattern runs what the conditional over its cases runs, after one
notice. -/
theorem dispatch_openTable (h : p.LawfulAt v) :
    ∃ n, (openTable p (first :: rest)).dispatch v =
      Act.notice n >>= fun _ => conditional v p first rest [] .optional := by
  rw [conditional_nil, openTable, ofList_eq]
  cases hx : p.peek? v with
  | none =>
    have htag : p.tag ≠ tag v := (h.refuses hx).tag_ne
    have hlast : lastCall PartialRegistration.tag?
        [PartialRegistration.openChain { pattern := p, cases := first :: rest }] (tag v) = none :=
      lastCall_eq_none_iff.mpr (by simp [PartialRegistration.tag?, htag])
    refine ⟨.absent (Tag.name (tag v)), ?_⟩
    rw [PartialTable.dispatch_of_nothing hlast rfl]
    rfl
  | some x =>
    have hands := h.handsOver hx
    have htag : p.tag = tag v := hands.tag_eq
    have hlast : lastCall PartialRegistration.tag?
        [PartialRegistration.openChain { pattern := p, cases := first :: rest }] (tag v) =
          some (.openChain { pattern := p, cases := first :: rest }) :=
      lastCall_eq_some_iff.mpr ⟨congrArg some htag, [], [], rfl, by simp⟩
    refine ⟨.dispatch (Tag.name (tag v)), ?_⟩
    rw [PartialTable.dispatch_of_openChain hlast hands.take_eq]
    simp [Completion.optional]

/-- Over a lawful pattern the caller observes the same of a chain and of the conditional over its
cases. -/
theorem observed_eq_conditional (h : p.LawfulAt v) :
    (∀ default f, ((closedTable p (first :: rest) default f).dispatch v).observed =
      (conditional v p first rest [.ofPattern v p default] (.orElse f)).observed) ∧
    ((openTable p (first :: rest)).dispatch v).observed =
      (conditional v p first rest [] .optional).observed := by
  constructor
  · intro default f
    obtain ⟨n, hdispatch⟩ := dispatch_closedTable h default f
    rw [hdispatch, Act.observed_notice_bind]
  · obtain ⟨n, hdispatch⟩ := dispatch_openTable h
    rw [hdispatch, Act.observed_notice_bind]

/-- **Agreement of chains and conditionals.** Over a pattern of a registry and, before the
identities are used up, over a pattern of schemas, the caller observes the same ending, state and
writing of a chain of cases in a table and of the conditional that asks the guards of the cases in
turn: of a closed chain beside a fallback and the conditional with a last branch for all payloads
and that else, and of an open chain and the conditional without an else. -/
theorem chains_agree :
    (∀ {F : Type} (den : F → Type) (r : Registry F) {P : Type}
      (p : Pattern (r.Value den) r.Tag P), Registry.Marker den r P p →
      ∀ (first : Case ε σ P R) (rest : List (Case ε σ P R)) v,
      (∀ default f, ((closedTable p (first :: rest) default f).dispatch v).observed =
        (conditional v p first rest [.ofPattern v p default] (.orElse f)).observed) ∧
      ((openTable p (first :: rest)).dispatch v).observed =
        (conditional v p first rest [] .optional).observed) ∧
    ∀ {C : Type} [DecidableEq C] [TypeCode C] (steps : List (SchemaStep C)),
      (World.after steps).built.length < 2 ^ 64 →
      ∀ {P : Type} (p : Pattern (SchemaValue C) SchemaTag P), (World.after steps).Grants P p →
      ∀ (first : Case ε σ P R) (rest : List (Case ε σ P R)), ∀ v ∈ (World.after steps).values,
      (∀ default f, ((closedTable p (first :: rest) default f).dispatch v.item).observed =
        (conditional v.item p first rest [.ofPattern v.item p default] (.orElse f)).observed) ∧
      ((openTable p (first :: rest)).dispatch v.item).observed =
        (conditional v.item p first rest [] .optional).observed := by
  refine ⟨fun den r P p hmarker first rest v => ?_,
    fun steps hbuilds P p hgranted first rest v hv => ?_⟩
  · exact observed_eq_conditional (hmarker.lawful v)
  · have hw := World.consistent_after steps
    exact observed_eq_conditional (hgranted.lawfulAt hw hbuilds hv)

end Cases

/-! ## Circles -/

namespace Circles

open Registry Script

/-- A case that counts how often it is asked, and turns the first payload down. -/
def countedCase {P : Type} (text : String) : Case String Nat P Unit where
  guard _ := do
    Act.write "asked"
    Act.update fun asked => (asked = 1, asked + 1)
  handler _ := Act.write text

end Circles

theorem chains_agree_seven :
    ((Cases.closedTable (Circles.circle.pattern _)
        [Circles.countedCase "first", Circles.countedCase "second"] (fun _ => Act.panic "default")
        (Act.panic "fallback")).dispatch Circles.seven).observed 0 =
      (.done (), 2, ["asked", "asked", "second"]) ∧
    ((Cases.closedTable (Circles.circle.pattern PayloadType.Val)
        [Circles.countedCase "first", Circles.countedCase "second"] (fun _ => Act.panic "default")
        (Act.panic "fallback")).dispatch Circles.seven).observed =
      (Cases.conditional Circles.seven (Circles.circle.pattern _) (Circles.countedCase "first")
        [Circles.countedCase "second"]
        [.ofPattern Circles.seven (Circles.circle.pattern _) fun _ => Act.panic "default"]
        (.orElse (Act.panic "fallback"))).observed ∧
    (World.after Shapes.steps).built.length = 2 ∧
    ((Cases.openTable Shapes.label.item.toPattern [Circles.countedCase "label"]).dispatch
        Shapes.seven.item).observed =
      (Cases.conditional Shapes.seven.item Shapes.label.item.toPattern
        (Circles.countedCase "label") [] [] .optional).observed := by
  obtain ⟨hregistry, hschemas⟩ := Cases.chains_agree (ε := String) (σ := Nat) (R := Unit)
  have hcircles := hregistry _ _ _ (.of Circles.circle) (Circles.countedCase "first")
    [Circles.countedCase "second"] Circles.seven
  have hshapes := hschemas Shapes.steps Shapes.built_lt _ (.of Shapes.label_mem)
    (Circles.countedCase "label") [] Shapes.seven Shapes.seven_mem
  exact ⟨rfl, hcircles.1 _ _, rfl, hshapes.2⟩

end TagDispatch
