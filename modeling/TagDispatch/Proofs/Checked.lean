import Mathlib.Data.List.TFAE
import TagDispatch.Proofs.Coverage

/-!
# Checked values and patterns

A schema checks the type of every payload and of every pattern against its declarations. The verdict
on a name and a type, `Schema.Verdict`, depends on the declarations alone, and where no name is
declared twice `Schema.check` gives it: `Schema.check_eq_iff`. Values and patterns are both made
after this check, so a schema makes the one exactly if it makes the other, and refuses both for the
same reason.

No name is declared twice in a schema that was built, `World.Consistent.build_eq`.
-/

namespace TagDispatch

variable {C : Type}

namespace Schema

variable {s : Schema C} {name : String} {type declared : C} {t : SchemaTag}

/-! ## Looking a name up -/

/-- Where no name is declared twice, what is found under a name is what it is declared with. -/
theorem find?_eq_some_iff (hnodup : (s.declarations.map (·.1)).Nodup) :
    s.find? name = some (t, type) ↔ t = s.tagNamed name ∧ (name, type) ∈ s.declarations := by
  constructor
  · intro hfind
    refine ⟨tag_of_find? hfind, ?_⟩
    obtain ⟨d, hd, heq⟩ := Option.map_eq_some_iff.mp hfind
    have hname : d.1 = name := by simpa using List.find?_some hd
    have htype : d.2 = type := (Prod.mk.inj heq).2
    rw [← hname, ← htype]
    exact List.mem_of_find?_eq_some hd
  · rintro ⟨rfl, hdeclared⟩
    obtain ⟨d, hd⟩ : ∃ d, (s.declarations.find? fun d => d.1 = name) = some d := by
      rw [← Option.isSome_iff_exists, List.find?_isSome]
      exact ⟨(name, type), hdeclared, by simp⟩
    have hname : d.1 = name := by simpa using List.find?_some hd
    -- no other declaration has this name
    have heq : d = (name, type) :=
      List.inj_on_of_nodup_map hnodup (List.mem_of_find?_eq_some hd) hdeclared hname
    rw [find?, hd, heq]
    rfl

theorem find?_eq_none_iff :
    s.find? name = none ↔ ∀ declared, (name, declared) ∉ s.declarations := by
  rw [find?, Option.map_eq_none_iff, List.find?_eq_none]
  constructor
  · intro hnone declared hdeclared
    simpa using hnone (name, declared) hdeclared
  · intro hnone d hd hname
    rw [decide_eq_true_iff] at hname
    subst hname
    exact hnone d.2 hd

/-- Where no name is declared twice, the type of a name is the one it is declared with. -/
theorem type?_eq_some_iff (hnodup : (s.declarations.map (·.1)).Nodup) :
    s.type? name = some type ↔ (name, type) ∈ s.declarations := by
  rw [type?, Option.map_eq_some_iff]
  constructor
  · rintro ⟨⟨t, _⟩, hfind, rfl⟩
    exact ((find?_eq_some_iff hnodup).mp hfind).2
  · intro hdeclared
    exact ⟨(s.tagNamed name, type), (find?_eq_some_iff hnodup).mpr ⟨rfl, hdeclared⟩, rfl⟩

/-! ## The verdict on a name and a type -/

variable [DecidableEq C] [TypeCode C]

/-- What the declarations say about a name that is used with a type: its tag, or an error that names
the schema where the name is not declared, and else the declared type and the type. -/
inductive Verdict (s : Schema C) (name : String) (type : C) : Except Error SchemaTag → Prop
  | declared (h : (name, type) ∈ s.declarations) : Verdict s name type (.ok (s.tagNamed name))
  | unknown (h : ∀ declared, (name, declared) ∉ s.declarations) :
      Verdict s name type (.error (.unknownTag s.name name))
  | mismatch {declared : C} (h : (name, declared) ∈ s.declarations) (hne : declared ≠ type) :
      Verdict s name type
        (.error (.shapeMismatch name (TypeCode.typeName declared) (TypeCode.typeName type)))

/-- Where no name is declared twice, a check gives the verdict. -/
theorem check_eq_iff (hnodup : (s.declarations.map (·.1)).Nodup) {r : Except Error SchemaTag} :
    s.check name type = r ↔ s.Verdict name type r := by
  constructor
  · rintro rfl
    unfold check
    cases hfind : s.find? name with
    | none => exact .unknown (find?_eq_none_iff.mp hfind)
    | some found =>
      obtain ⟨t, declared⟩ := found
      obtain ⟨rfl, hdeclared⟩ := (find?_eq_some_iff hnodup).mp hfind
      show s.Verdict name type (if declared = type then .ok _ else .error _)
      split
      · next heq =>
        subst heq
        exact .declared hdeclared
      · next hne => exact .mismatch hdeclared hne
  · intro hverdict
    cases hverdict with
    | declared h => exact check_eq_ok_iff.mpr ((find?_eq_some_iff hnodup).mpr ⟨rfl, h⟩)
    | unknown h => rw [check, find?_eq_none_iff.mpr h]
    | mismatch h hne =>
      rw [check, (find?_eq_some_iff hnodup).mpr ⟨rfl, h⟩]
      exact if_neg hne

/-- A check refuses a name that is not declared, and a type that the name is not declared with. -/
theorem check_eq_error_iff (hnodup : (s.declarations.map (·.1)).Nodup) {e : Error} :
    s.check name type = .error e ↔
      ((∀ declared, (name, declared) ∉ s.declarations) ∧ e = .unknownTag s.name name) ∨
        ∃ declared, (name, declared) ∈ s.declarations ∧ declared ≠ type ∧
          e = .shapeMismatch name (TypeCode.typeName declared) (TypeCode.typeName type) := by
  rw [check_eq_iff hnodup]
  constructor
  · intro hverdict
    cases hverdict with
    | unknown h => exact Or.inl ⟨h, rfl⟩
    | @mismatch declared h hne => exact Or.inr ⟨declared, h, hne, rfl⟩
  · rintro (⟨h, rfl⟩ | ⟨declared, h, hne, rfl⟩)
    · exact .unknown h
    · exact .mismatch h hne

/-- What is made after a check is refused exactly if the check refuses. -/
theorem check_bind_eq_error_iff {β : Type} {make : SchemaTag → β} {e : Error} :
    (s.check name type >>= fun t => pure (make t)) = .error e ↔ s.check name type = .error e := by
  cases s.check name type with
  | error e' =>
    show Except.error e' = Except.error e ↔ _
    rw [Except.error.injEq, Except.error.injEq]
  | ok t =>
    constructor
    · intro h
      cases h
    · intro h
      cases h

/-- A name that is declared with the type passes the check with its tag. -/
theorem check_of_mem (hnodup : (s.declarations.map (·.1)).Nodup)
    (hdeclared : (name, type) ∈ s.declarations) :
    s.check name type = .ok (s.tagNamed name) :=
  (check_eq_iff hnodup).mpr (.declared hdeclared)

/-- What is made after a check is made exactly for the names that are declared with the type. -/
theorem exists_check_bind_eq_ok_iff (hnodup : (s.declarations.map (·.1)).Nodup) {β : Type}
    {make : SchemaTag → β} :
    (∃ b, (s.check name type >>= fun t => pure (make t)) = .ok b) ↔
      (name, type) ∈ s.declarations := by
  constructor
  · rintro ⟨b, hb⟩
    obtain ⟨t, hfind, -⟩ := find?_of_check_bind hb
    exact ((find?_eq_some_iff hnodup).mp hfind).2
  · intro hdeclared
    rw [check_of_mem hnodup hdeclared]
    exact ⟨_, rfl⟩

end Schema

/-- A value shows its payload as one of its own type and of no other. -/
theorem SchemaValue.isSome_payload?_iff [DecidableEq C] [TypeCode C] {v : SchemaValue C}
    {type : C} : (v.payload? type).isSome ↔ v.type = type := by
  unfold SchemaValue.payload?
  split <;> simp [*]

/-! ## Schemas of a world -/

namespace World

variable [DecidableEq C] [TypeCode C] {w : World C}

omit [DecidableEq C] in
/-- A schema of the world is what a draft with its declarations builds. -/
theorem Consistent.build_eq (h : w.Consistent) {s : Traced (Schema C)} (hs : s ∈ w.schemas) :
    (SchemaDraft.mk s.item.name s.item.declarations).build s.item.id =
      .ok (s.item, s.item.id + 1) := by
  have hbuilt : s.item ∈ w.built := List.mem_of_getElem? (h.schema_eq s hs)
  exact SchemaDraft.build_eq_ok_iff.mpr ⟨h.names_nodup s.item hbuilt, rfl, rfl⟩

/-- **Checked alike.** A schema that was built or copied makes a value under a name exactly if it
makes a pattern for it, and that is if the name is declared with the type. It refuses both with the
same error: an unknown tag if the name is not declared, and else a mismatch of the declared type.
What it makes, it makes of the declared tag; the pattern shows the payload of the value, and the
payload is of no other type. -/
theorem values_and_patterns_checked_alike (steps : List (SchemaStep C)) {s : Traced (Schema C)}
    (hs : s ∈ (after steps).schemas) (name : String) (type : C) (x : TypeCode.Val type) :
    (∃ next, (SchemaDraft.mk s.item.name s.item.declarations).build next =
      .ok (s.item, next + 1)) ∧
    [∃ v, s.item.value name type x = .ok v,
      ∃ p, s.item.pattern name type = .ok p,
      (name, type) ∈ s.item.declarations,
      s.item.type? name = some type].TFAE ∧
    (∀ e, s.item.value name type x = .error e ↔ s.item.pattern name type = .error e) ∧
    (∀ e, s.item.value name type x = .error e ↔
      ((∀ declared, (name, declared) ∉ s.item.declarations) ∧
        e = .unknownTag s.item.name name) ∨
      ∃ declared, (name, declared) ∈ s.item.declarations ∧ declared ≠ type ∧
        e = .shapeMismatch name (TypeCode.typeName declared) (TypeCode.typeName type)) ∧
    ((∀ declared, (name, declared) ∉ s.item.declarations) →
      s.item.tag? name = none ∧ s.item.type? name = none) ∧
    ((name, type) ∈ s.item.declarations →
      ∃ t ∈ s.item.tags, s.item.tag? name = some t ∧
        s.item.value name type x = .ok ⟨t, type, x⟩ ∧
        s.item.pattern name type = .ok ⟨t, type⟩ ∧
        (SchemaPattern.mk t type).toPattern.peek? ⟨t, type, x⟩ = some x ∧
        ∀ other, ((SchemaValue.mk t type x).payload? other).isSome ↔ other = type) := by
  have hbuild := (consistent_after steps).build_eq hs
  have hnodup := (SchemaDraft.build_eq_ok_iff.mp hbuild).1
  refine ⟨⟨_, hbuild⟩, ?_, fun e => ?_, fun e => ?_, fun hunknown => ?_, fun hdeclared => ?_⟩
  · refine List.tfae_of_forall ((name, type) ∈ s.item.declarations) _ ?_
    simp only [List.forall_mem_cons]
    exact ⟨Schema.exists_check_bind_eq_ok_iff hnodup, Schema.exists_check_bind_eq_ok_iff hnodup,
      trivial, Schema.type?_eq_some_iff hnodup, by simp⟩
  · rw [Schema.value, Schema.pattern, Schema.check_bind_eq_error_iff,
      Schema.check_bind_eq_error_iff]
  · rw [Schema.value, Schema.check_bind_eq_error_iff, Schema.check_eq_error_iff hnodup]
  · have hfind := Schema.find?_eq_none_iff.mpr hunknown
    rw [Schema.tag?, Schema.type?, hfind]
    exact ⟨rfl, rfl⟩
  · have hcheck := Schema.check_of_mem hnodup hdeclared
    have hfind := Schema.check_eq_ok_iff.mp hcheck
    refine ⟨s.item.tagNamed name, Schema.mem_tags_of_find? hfind, ?_, ?_, ?_, ?_, fun other => ?_⟩
    · rw [Schema.tag?, hfind]
      rfl
    · rw [Schema.value, hcheck]
      rfl
    · rw [Schema.pattern, hcheck]
      rfl
    · simp [SchemaPattern.toPattern]
    · rw [SchemaValue.isSome_payload?_iff]
      exact eq_comm

end World

/-! ## Shapes -/

namespace Shapes

theorem labels_checked_alike :
    labels ∈ (World.after steps).schemas ∧
      (∃ v, labels.item.value "Circle" .ownedText "disc" = .ok v) ∧
      (∃ p, labels.item.pattern "Circle" .ownedText = .ok p) ∧
      labels.item.pattern "Circle" .unit = .error (.shapeMismatch "Circle"
        (TypeCode.typeName PayloadType.ownedText) (TypeCode.typeName PayloadType.unit)) ∧
      labels.item.value "Dot" .unit () = .error (.unknownTag "Shape" "Dot") := by
  obtain ⟨-, hmade, -⟩ :=
    World.values_and_patterns_checked_alike steps labels_mem "Circle" .ownedText "disc"
  obtain ⟨-, -, halike, hcircle, -⟩ :=
    World.values_and_patterns_checked_alike steps labels_mem "Circle" .unit ()
  obtain ⟨-, -, -, hdot, -⟩ :=
    World.values_and_patterns_checked_alike steps labels_mem "Dot" .unit ()
  have hdeclared : ("Circle", PayloadType.ownedText) ∈ labels.item.declarations :=
    List.mem_singleton.mpr rfl
  refine ⟨labels_mem, (hmade.out 0 2).mpr hdeclared, (hmade.out 1 2).mpr hdeclared, ?_, ?_⟩
  · exact (halike _).mp ((hcircle _).mpr (Or.inr ⟨.ownedText, hdeclared, by decide, rfl⟩))
  · refine (hdot _).mpr (Or.inl ⟨fun declared hmem => ?_, rfl⟩)
    simp [labels] at hmem

end Shapes

end TagDispatch
