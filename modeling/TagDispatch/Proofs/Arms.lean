import TagDispatch.Proofs.Access

/-!
# Tables and conditionals over the same arms

An arm is a pattern with a handler on its payload. A table finds an arm by the tag of a value, and
the last one registered for a tag wins; a conditional looks for a payload, and the first arm that
finds one wins. Over patterns that are lawful at the value the two agree if the conditional takes
the arms from the last to the first: `Arm.first_branches` finds there the arm that
`Arm.lastCall_entries` finds among the calls of the table.
-/

namespace TagDispatch

variable {ε σ V T P R O : Type}

/-! ## Conditionals as lists of branches -/

section Branches

variable [Tagged V T] [Tag T] {v : V} {p : Pattern V T P}

/-- A branch that is built is tried, and if it does not fire the others follow. -/
theorem Branch.first_pure_cons (branch : Branch ε σ R)
    (branches : List (Act ε σ (Branch ε σ R))) :
    Branch.first (pure branch :: branches) = branch.attempt >>= fun
      | some r => pure (some r)
      | none => Branch.first branches := by
  rw [Branch.first]
  exact pure_bind branch _

/-- A primary branch that looks for a payload is a first further branch. -/
theorem Conditional.bound_eq_rest (body : P → Act ε σ R)
    (branches : List (Act ε σ (Branch ε σ R))) (completion : Completion ε σ R O) :
    Conditional.bound v p body branches completion =
      Conditional.rest (pure (Branch.ofPattern v p body) :: branches) completion := by
  rw [Conditional.rest, Branch.first_pure_cons, Branch.ofPattern, onPayload, Conditional.bound]
  cases p.peek? v with
  | some x => simp [Branch.attempt]
  | none => simp [Branch.attempt, Conditional.rest]

end Branches

/-! ## Arms -/

/-- A pattern with a handler on its payload: an entry of a table or a branch of a conditional. -/
structure Arm (ε σ V T R : Type) : Type 1 where
  {P : Type}
  pattern : Pattern V T P
  handler : P → Act ε σ R

namespace Arm

/-- The call that registers the arm in an exhaustive table. -/
def entry (a : Arm ε σ V T R) : Registration ε σ V T R := .handle a.pattern a.handler

/-- The call that registers the arm in a partial table. -/
def partialEntry (a : Arm ε σ V T R) : PartialRegistration ε σ V T R := .handle a.pattern a.handler

variable [Tagged V T] [Tag T]

/-- The arm as a branch of a conditional over a value. -/
def branch (v : V) (a : Arm ε σ V T R) : Branch ε σ R := .ofPattern v a.pattern a.handler

variable [DecidableEq T]

/-- The exhaustive table of some arms with a fallback. -/
def table (arms : List (Arm ε σ V T R)) (fallback : Act ε σ R) : Table ε σ V T R :=
  .ofRegistrations (arms.map entry ++ [.orElse fallback])

/-- The partial table of some arms. -/
def partialTable (arms : List (Arm ε σ V T R)) : PartialTable ε σ V T R :=
  .ofRegistrations (arms.map partialEntry)

omit [DecidableEq T] in
/-- The conditional that tries the last arm and then the earlier ones from the last to the first. -/
def conditional (v : V) (arms : List (Arm ε σ V T R)) (last : Arm ε σ V T R)
    (completion : Completion ε σ R O) : Act ε σ O :=
  Conditional.bound v last.pattern last.handler (Branch.built (arms.reverse.map (branch v)))
    completion

/-! ## The arm that is found -/

variable {v : V} {arms : List (Arm ε σ V T R)} {a : Arm ε σ V T R}

omit [Tagged V T] [Tag T] in
/-- The last call for a tag among entries is that of the first arm with it from the end. -/
theorem lastCall_entries {A : Type 1} {tag? : A → Option T} {entry : Arm ε σ V T R → A}
    (htag : ∀ a, tag? (entry a) = some a.pattern.tag) (arms : List (Arm ε σ V T R)) (t : T) :
    lastCall tag? (arms.map entry) t =
      (arms.reverse.find? fun a => a.pattern.tag = t).map entry := by
  rw [lastCall_map htag, lastCall, List.findRev?_eq_find?_reverse]
  simp only [Option.some.injEq]

omit [DecidableEq T] in
/-- What a partial table runs for an arm is what an exhaustive one runs, with its result wrapped. -/
theorem optional_answer (a : Arm ε σ V T R) (v : V) :
    a.partialEntry.optional.answer v = some <$> a.entry.answer v := by
  show (a.pattern.demand v >>= fun x => some <$> a.handler x) = _
  rw [← map_bind]
  rfl

/-- Among branches of lawful arms the first with the tag of the value answers. -/
theorem first_branches (hlawful : ∀ a ∈ arms, a.pattern.LawfulAt v) :
    Branch.first (Branch.built (arms.map (branch v))) =
      (arms.find? fun a => a.pattern.tag = tag v).elim (pure none)
        fun a => some <$> a.entry.answer v := by
  induction arms with
  | nil => rfl
  | cons a rest ih =>
    have hfirst : a.pattern.LawfulAt v := hlawful a List.mem_cons_self
    have ih := ih fun b hb => hlawful b (List.mem_cons_of_mem a hb)
    show Branch.first (pure (a.branch v) :: Branch.built (rest.map (branch v))) = _
    rw [Branch.first_pure_cons, branch]
    cases hx : a.pattern.peek? v with
    | some x =>
      have hands := hfirst.handsOver hx
      have htag : a.pattern.tag = tag v := hands.tag_eq
      have hanswer : a.entry.answer v = a.handler x :=
        Registration.answer_of_executes (.handle hands.take_eq)
      have hfind : (a :: rest).find? (fun a => a.pattern.tag = tag v) = some a :=
        List.find?_cons_of_pos (by simpa using htag)
      rw [hfind, Option.elim_some, hands.branch_eq, hanswer, Branch.attempt]
      simp
    | none =>
      have hrefuses := hfirst.refuses hx
      have htag : a.pattern.tag ≠ tag v := hrefuses.tag_ne
      have hfind : (a :: rest).find? (fun a => a.pattern.tag = tag v) =
          rest.find? fun a => a.pattern.tag = tag v :=
        List.find?_cons_of_neg (by simpa using htag)
      rw [hfind, hrefuses.branch_eq, Branch.attempt, ← ih]
      simp

/-! ## Agreement -/

/-- The conditional runs the last of the lawful arms with the tag of the value. -/
theorem conditional_eq (last : Arm ε σ V T R) (completion : Completion ε σ R O)
    (hlawful : ∀ a ∈ arms ++ [last], a.pattern.LawfulAt v) :
    conditional v arms last completion =
      (((arms ++ [last]).reverse.find? fun a => a.pattern.tag = tag v).elim (pure none)
        fun a => some <$> a.entry.answer v) >>= completion.complete := by
  have hreverse : ∀ a ∈ (arms ++ [last]).reverse, a.pattern.LawfulAt v :=
    fun a ha => hlawful a (List.mem_reverse.mp ha)
  -- the primary branch is the first of all arms from the end
  have hrest : conditional v arms last completion =
      Conditional.rest (Branch.built ((arms ++ [last]).reverse.map (branch v))) completion := by
    rw [conditional, Conditional.bound_eq_rest, List.reverse_append, List.reverse_singleton,
      List.singleton_append]
    rfl
  rw [hrest, Conditional.rest, first_branches hreverse]

/-- The table of lawful arms runs what the conditional over them runs, after one notice. -/
theorem dispatch_table (last : Arm ε σ V T R) (f : Act ε σ R)
    (hlawful : ∀ a ∈ arms ++ [last], a.pattern.LawfulAt v) :
    ∃ n, (table (arms ++ [last]) f).dispatch v =
      Act.notice n >>= fun _ => conditional v arms last (.orElse f) := by
  have hfallback : ((arms ++ [last]).map entry ++ [Registration.orElse f]).findSomeRev?
      Registration.fallback? = some f := findSomeRev?_append_singleton ..
  have hlast : lastCall Registration.tag? ((arms ++ [last]).map entry ++ [.orElse f]) (tag v) =
      ((arms ++ [last]).reverse.find? fun a => a.pattern.tag = tag v).map entry := by
    rw [lastCall_append_singleton, if_neg (by simp [Registration.tag?]),
      lastCall_entries fun _ => rfl]
  rw [conditional_eq last _ hlawful]
  cases hfind : (arms ++ [last]).reverse.find? fun a => a.pattern.tag = tag v with
  | some a =>
    rw [hfind] at hlast
    refine ⟨.dispatch (Tag.name (tag v)), ?_⟩
    rw [table, Table.dispatch_of_lastCall hlast]
    simp [Completion.orElse]
  | none =>
    rw [hfind] at hlast
    refine ⟨.fallback (Tag.name (tag v)), ?_⟩
    rw [table, Table.dispatch_of_fallback hlast hfallback]
    simp [Completion.orElse]

/-- The partial table of lawful arms runs what the conditional over them runs, after one notice. -/
theorem dispatch_partialTable (last : Arm ε σ V T R)
    (hlawful : ∀ a ∈ arms ++ [last], a.pattern.LawfulAt v) :
    ∃ n, (partialTable (arms ++ [last])).dispatch v =
      Act.notice n >>= fun _ => conditional v arms last .optional := by
  have hfallback : ((arms ++ [last]).map partialEntry).findSomeRev?
      PartialRegistration.fallback? = none := by
    rw [findSomeRev?_eq_none_iff, List.forall_mem_map]
    exact fun a _ => rfl
  have hlast : lastCall PartialRegistration.tag? ((arms ++ [last]).map partialEntry) (tag v) =
      ((arms ++ [last]).reverse.find? fun a => a.pattern.tag = tag v).map partialEntry :=
    lastCall_entries (fun _ => rfl) _ _
  rw [conditional_eq last _ hlawful]
  cases hfind : (arms ++ [last]).reverse.find? fun a => a.pattern.tag = tag v with
  | some a =>
    rw [hfind] at hlast
    refine ⟨.dispatch (Tag.name (tag v)), ?_⟩
    rw [partialTable, PartialTable.dispatch_of_lastCall hlast, optional_answer]
    simp [Completion.optional]
  | none =>
    rw [hfind] at hlast
    refine ⟨.absent (Tag.name (tag v)), ?_⟩
    rw [partialTable, PartialTable.dispatch_of_nothing hlast hfallback]
    simp [Completion.optional]

/-- Over lawful arms the caller observes the same of both engines. -/
theorem observed_eq_conditional (last : Arm ε σ V T R)
    (hlawful : ∀ a ∈ arms ++ [last], a.pattern.LawfulAt v) :
    (∀ f, ((table (arms ++ [last]) f).dispatch v).observed =
      (conditional v arms last (.orElse f)).observed) ∧
    ((partialTable (arms ++ [last])).dispatch v).observed =
      (conditional v arms last .optional).observed := by
  constructor
  · intro f
    obtain ⟨n, hdispatch⟩ := dispatch_table last f hlawful
    rw [hdispatch, Act.observed_notice_bind]
  · obtain ⟨n, hdispatch⟩ := dispatch_partialTable last hlawful
    rw [hdispatch, Act.observed_notice_bind]

/-- **Agreement of the engines.** Over the patterns of a registry, and before the identities are
used up over patterns of schemas, the caller observes the same ending, state and writing of a
table of some arms and of the conditional that tries them from the last to the first: of an
exhaustive table with a fallback and the conditional with that else, and of a partial table and
the conditional without an else. -/
theorem engines_agree :
    (∀ {F : Type} (den : F → Type) (r : Registry F) (arms : List (Arm ε σ (r.Value den) r.Tag R))
      (last : Arm ε σ (r.Value den) r.Tag R),
      (∀ a ∈ arms ++ [last], Registry.Marker den r a.P a.pattern) → ∀ v,
      (∀ f, ((table (arms ++ [last]) f).dispatch v).observed =
        (conditional v arms last (.orElse f)).observed) ∧
      ((partialTable (arms ++ [last])).dispatch v).observed =
        (conditional v arms last .optional).observed) ∧
    ∀ {C : Type} [DecidableEq C] [TypeCode C] (steps : List (SchemaStep C)),
      (World.after steps).built.length < 2 ^ 64 →
      ∀ (arms : List (Arm ε σ (SchemaValue C) SchemaTag R))
        (last : Arm ε σ (SchemaValue C) SchemaTag R),
      (∀ a ∈ arms ++ [last], (World.after steps).Grants a.P a.pattern) →
      ∀ v ∈ (World.after steps).values,
      (∀ f, ((table (arms ++ [last]) f).dispatch v.item).observed =
        (conditional v.item arms last (.orElse f)).observed) ∧
      ((partialTable (arms ++ [last])).dispatch v.item).observed =
        (conditional v.item arms last .optional).observed := by
  refine ⟨fun den r arms last hmarkers v => ?_, fun steps hbuilds arms last hgranted v hv => ?_⟩
  · exact observed_eq_conditional last fun a ha => (hmarkers a ha).lawful v
  · have hw := World.consistent_after steps
    exact observed_eq_conditional last fun a ha => (hgranted a ha).lawfulAt hw hbuilds hv

end Arm

/-! ## Circles -/

namespace Circles

open Registry Script

/-- Arms for circles and dots. -/
def arms : List (Arm String Nat (Sample.shape.Value PayloadType.Val) Sample.shape.Tag Unit) :=
  [⟨circle.pattern _, fun _ => Act.panic "replaced"⟩, ⟨dot.pattern _, fun _ => Act.panic "dot"⟩]

/-- The arm that counts for circles. -/
def lastArm : Arm String Nat (Sample.shape.Value PayloadType.Val) Sample.shape.Tag Unit :=
  ⟨circle.pattern _, fun _ => Act.write "circle"⟩

theorem arms_markers :
    ∀ a ∈ arms ++ [lastArm], Marker PayloadType.Val Sample.shape a.P a.pattern := by
  simp only [arms, lastArm, List.cons_append, List.nil_append, List.forall_mem_cons]
  exact ⟨.of circle, .of dot, .of circle, by simp⟩

end Circles

namespace Shapes

/-- Arms for both kinds of circle. -/
def arms : List (Arm String Nat (SchemaValue PayloadType) SchemaTag Unit) :=
  [⟨radius.item.toPattern, fun _ => Act.panic "replaced"⟩,
    ⟨label.item.toPattern, fun _ => Act.panic "label"⟩]

/-- The arm that counts for circles with a radius. -/
def lastArm : Arm String Nat (SchemaValue PayloadType) SchemaTag Unit :=
  ⟨radius.item.toPattern, fun _ => Act.write "radius"⟩

theorem arms_granted : ∀ a ∈ arms ++ [lastArm], (World.after steps).Grants a.P a.pattern := by
  simp only [arms, lastArm, List.cons_append, List.nil_append, List.forall_mem_cons]
  exact ⟨.of radius_mem, .of label_mem, .of radius_mem, by simp⟩

end Shapes

theorem engines_agree_seven :
    ((Arm.table (Circles.arms ++ [Circles.lastArm]) (pure ())).dispatch Circles.seven).observed 0 =
        (.done (), 0, ["circle"]) ∧
      ((Arm.table (Circles.arms ++ [Circles.lastArm]) (pure ())).dispatch Circles.seven).observed =
        (Arm.conditional Circles.seven Circles.arms Circles.lastArm (.orElse (pure ()))).observed ∧
      (World.after Shapes.steps).built.length = 2 ∧
      ((Arm.partialTable (Shapes.arms ++ [Shapes.lastArm])).dispatch Shapes.seven.item).observed =
        (Arm.conditional Shapes.seven.item Shapes.arms Shapes.lastArm .optional).observed := by
  obtain ⟨hregistry, hschemas⟩ := Arm.engines_agree (ε := String) (σ := Nat) (R := Unit)
  have hcircles := hregistry _ _ Circles.arms Circles.lastArm Circles.arms_markers Circles.seven
  have hshapes := hschemas Shapes.steps Shapes.built_lt Shapes.arms Shapes.lastArm
    Shapes.arms_granted Shapes.seven Shapes.seven_mem
  exact ⟨rfl, hcircles.1 (pure ()), rfl, hshapes.2⟩

end TagDispatch
