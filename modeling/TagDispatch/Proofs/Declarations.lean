import Mathlib.Data.List.Nodup
import TagDispatch.Schema

/-!
# What a schema declares

A draft is built exactly if no name is declared twice, and what is built keeps the declarations. A
schema then makes values and patterns of exactly the tags and types it declares: both go through
`Schema.check`, so a value and a pattern under one name agree on the type of the payload.
-/

namespace TagDispatch

variable {C : Type}

namespace SchemaDraft

theorem firstRepeat?_eq_none_iff (seen names : List String) :
    firstRepeat? seen names = none ↔ names.Nodup ∧ ∀ name ∈ names, name ∉ seen := by
  induction names generalizing seen with
  | nil => simp [firstRepeat?]
  | cons name rest ih =>
    rw [firstRepeat?, List.nodup_cons, List.forall_mem_cons]
    by_cases h : name ∈ seen
    · simp [h]
    · -- the name is now seen, so the rest must avoid it beside what was seen before
      rw [if_neg h, ih]
      simp only [List.mem_cons, not_or]
      constructor
      · rintro ⟨hnodup, hrest⟩
        exact ⟨⟨fun hmem => (hrest name hmem).1 rfl, hnodup⟩, h, fun n hn => (hrest n hn).2⟩
      · rintro ⟨⟨hname, hnodup⟩, -, hrest⟩
        exact ⟨hnodup, fun n hn => ⟨fun heq => hname (heq ▸ hn), hrest n hn⟩⟩

/-- A draft without repeated names is built as it stands, and one identity is used. -/
theorem build_eq_ok_iff {draft : SchemaDraft C} {next next' : UInt64} {s : Schema C} :
    draft.build next = .ok (s, next') ↔
      (draft.declarations.map (·.1)).Nodup ∧ s = ⟨next, draft.name, draft.declarations⟩ ∧
        next' = next + 1 := by
  unfold build
  cases h : firstRepeat? [] (draft.declarations.map (·.1)) with
  | none =>
    have hnodup := ((firstRepeat?_eq_none_iff _ _).mp h).1
    simp only [Except.ok.injEq, Prod.mk.injEq, hnodup, true_and]
    exact and_congr eq_comm eq_comm
  | some name =>
    have hnodup : ¬ (draft.declarations.map (·.1)).Nodup := fun hnodup => by
      rw [(firstRepeat?_eq_none_iff _ _).mpr ⟨hnodup, by simp⟩] at h
      cases h
    simp [hnodup]

end SchemaDraft

namespace Schema

/-- What is found under a name carries the name and the identity of the schema. -/
theorem tag_of_find? {s : Schema C} {name : String} {t : SchemaTag} {type : C}
    (h : s.find? name = some (t, type)) : t = s.tagNamed name := by
  obtain ⟨d, hd, heq⟩ := Option.map_eq_some_iff.mp h
  have hname : d.1 = name := by simpa using List.find?_some hd
  rw [← hname]
  exact (Prod.mk.inj heq).1.symm

/-- What is found under a name is declared. -/
theorem mem_tags_of_find? {s : Schema C} {name : String} {t : SchemaTag} {type : C}
    (h : s.find? name = some (t, type)) : t ∈ s.tags := by
  obtain ⟨d, hd, heq⟩ := Option.map_eq_some_iff.mp h
  exact List.mem_map.mpr ⟨d, List.mem_of_find?_eq_some hd, (Prod.mk.inj heq).1⟩

variable [DecidableEq C] [TypeCode C]

/-- A check accepts exactly the declared type. -/
theorem check_eq_ok_iff {s : Schema C} {name : String} {type : C} {t : SchemaTag} :
    s.check name type = .ok t ↔ s.find? name = some (t, type) := by
  unfold check
  cases s.find? name with
  | none => simp
  | some found =>
    obtain ⟨t', declared⟩ := found
    by_cases h : declared = type <;> simp [h]

/-- What is made after a check is made of the tag that was found with the declared type. -/
theorem find?_of_check_bind {β : Type} {s : Schema C} {name : String} {type : C}
    {make : SchemaTag → β} {b : β} (h : (s.check name type >>= fun t => pure (make t)) = .ok b) :
    ∃ t, s.find? name = some (t, type) ∧ make t = b := by
  cases hcheck : s.check name type with
  | error e =>
    rw [hcheck] at h
    cases h
  | ok t =>
    rw [hcheck] at h
    exact ⟨t, check_eq_ok_iff.mp hcheck, Except.ok.inj h⟩

/-- A value that a schema makes carries a declared tag and a payload of the declared type. -/
theorem find?_of_value {s : Schema C} {name : String} {type : C} {payload : TypeCode.Val type}
    {v : SchemaValue C} (h : s.value name type payload = .ok v) :
    s.find? name = some (v.tag, v.type) := by
  obtain ⟨t, ht, rfl⟩ := find?_of_check_bind h
  exact ht

/-- A pattern that a schema makes has a declared tag and the declared type. -/
theorem find?_of_pattern {s : Schema C} {name : String} {type : C} {p : SchemaPattern C}
    (h : s.pattern name type = .ok p) : s.find? name = some (p.tag, p.type) := by
  obtain ⟨t, ht, rfl⟩ := find?_of_check_bind h
  exact ht

end Schema

end TagDispatch
