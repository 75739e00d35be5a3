import TagDispatch.Derive.Declaration

/-!
# Items that declare registries

An accepted item and its declaration determine the enum of each other: `Declaration.ofItem` checks
the variants one by one and changes nothing about them but how their field is held, so the variants
of the item are read off the declaration by `itemVariant`.
-/

namespace TagDispatch.Derive

section Results

variable {ε α β : Type}

theorem map_eq_ok_iff {f : α → β} {x : Except ε α} {b : β} :
    x.map f = .ok b ↔ ∃ a, x = .ok a ∧ f a = b := by
  cases x <;> simp [Except.map]

theorem bind_eq_ok_iff {f : α → Except ε β} {x : Except ε α} {b : β} :
    (x >>= f) = .ok b ↔ ∃ a, x = .ok a ∧ f a = .ok b := by
  cases x <;> simp [bind, Except.bind]

/-- A check that fails ends a computation, and one that holds leaves it as it is. -/
theorem guard_eq_ok_iff {c : Prop} [Decidable c] {e : ε} {next : PUnit → Except ε β} {b : β} :
    (if c then Except.error e >>= next else next ⟨⟩) = .ok b ↔ ¬c ∧ next ⟨⟩ = .ok b := by
  by_cases h : c <;> simp [h, bind, Except.bind]

end Results

/-- The variant of the item that a variant of the registry stands for. -/
def itemVariant (w : Variant Words) : ItemVariant :=
  ⟨w.ident, w.field.elim .unit fun ws => .unnamed [ws]⟩

@[simp]
theorem itemVariant_inj {w w' : Variant Words} : itemVariant w = itemVariant w' ↔ w = w' := by
  constructor
  · obtain ⟨i, field⟩ := w
    obtain ⟨i', field'⟩ := w'
    intro h
    obtain ⟨rfl, hfields⟩ := ItemVariant.mk.inj h
    cases field <;> cases field' <;> simp_all
  · rintro rfl
    rfl

/-! ## Variants -/

theorem fieldOf_eq_ok_iff {fields : Fields} {field : Option Words} :
    fieldOf fields = .ok field ↔ fields = field.elim .unit fun ws => .unnamed [ws] := by
  rcases fields with _ | types | _
  · cases field <;> simp [fieldOf]
  · -- only a list of one type is a field
    rcases types with _ | ⟨ws, _ | ⟨ws', rest⟩⟩ <;> cases field <;> simp [fieldOf]
  · cases field <;> simp [fieldOf]

/-- A variant is accepted unless it is the enum of tags or has fields that are no payload. -/
theorem variantOf_eq_ok_iff {v : ItemVariant} {w : Variant Words} :
    variantOf v = .ok w ↔ v.ident ≠ ⟨"Tag", false⟩ ∧ v = itemVariant w := by
  unfold variantOf
  by_cases htag : v.ident = ⟨"Tag", false⟩
  · simp [htag]
  · rw [if_neg htag, and_iff_right htag, map_eq_ok_iff]
    constructor
    · rintro ⟨field, hfield, rfl⟩
      rw [itemVariant, ← fieldOf_eq_ok_iff.mp hfield]
    · rintro rfl
      exact ⟨w.field, fieldOf_eq_ok_iff.mpr rfl, rfl⟩

theorem variantsOf_cons (v : ItemVariant) (rest : List ItemVariant) :
    variantsOf (v :: rest) = variantOf v >>= fun w => (variantsOf rest).map (w :: ·) := by
  rw [variantsOf]
  cases variantOf v <;> rfl

/-- Variants are accepted exactly if each of them is, and they keep their order. -/
theorem variantsOf_eq_ok_iff {vs : List ItemVariant} {ws : List (Variant Words)} :
    variantsOf vs = .ok ws ↔ (∀ v ∈ vs, v.ident ≠ ⟨"Tag", false⟩) ∧ vs = ws.map itemVariant := by
  induction vs generalizing ws with
  | nil => cases ws <;> simp [variantsOf]
  | cons v rest ih =>
    rw [variantsOf_cons, bind_eq_ok_iff, List.forall_mem_cons]
    constructor
    · rintro ⟨w, hv, hrest⟩
      obtain ⟨ws', hws', rfl⟩ := map_eq_ok_iff.mp hrest
      obtain ⟨htag, rfl⟩ := variantOf_eq_ok_iff.mp hv
      obtain ⟨htags, rfl⟩ := ih.mp hws'
      exact ⟨⟨htag, htags⟩, rfl⟩
    · rintro ⟨⟨htag, htags⟩, hmap⟩
      cases ws with
      | nil => cases hmap
      | cons w ws' =>
        obtain ⟨hv, hrest⟩ := List.cons.inj hmap
        exact ⟨w, variantOf_eq_ok_iff.mpr ⟨htag, hv⟩,
          map_eq_ok_iff.mpr ⟨ws', ih.mpr ⟨htags, hrest⟩, rfl⟩⟩

/-! ## Items -/

/-- An item is accepted exactly if it is an enum without parameters and with variants, its
attributes and its name settle the name of the module, and its variants are accepted. -/
theorem Declaration.ofItem_eq_ok_iff {item : Item} {d : Declaration} :
    Declaration.ofItem item = .ok d ↔
      (item.kind = .enum ∧ item.generic = false ∧ item.variants ≠ []) ∧
      (∃ given, givenNames item.attributes = .ok given ∧
        moduleOf Text.snakeCase item.ident given = .ok d.module) ∧
      (∀ v ∈ item.variants, v.ident ≠ ⟨"Tag", false⟩) ∧
      item.variants = d.registry.variants.map itemVariant ∧
      d.visibility = item.visibility ∧ d.registry.ident = item.ident := by
  simp only [Declaration.ofItem, guard_eq_ok_iff, bind_eq_ok_iff, variantsOf_eq_ok_iff]
  constructor
  · rintro ⟨hkind, hgeneric, hvariants, given, hgiven, module, hmodule, ws, ⟨htags, hws⟩, hd⟩
    obtain rfl := Except.ok.inj hd
    exact ⟨⟨Decidable.not_not.mp hkind, Bool.eq_false_iff.mpr hgeneric, hvariants⟩,
      ⟨given, hgiven, hmodule⟩, htags, hws, rfl, rfl⟩
  · rintro ⟨⟨hkind, hgeneric, hvariants⟩, ⟨given, hgiven, hmodule⟩, htags, hws, hvis, hident⟩
    refine ⟨Decidable.not_not.mpr hkind, Bool.eq_false_iff.mp hgeneric, hvariants, given, hgiven,
      d.module, hmodule, d.registry.variants, ⟨htags, hws⟩, ?_⟩
    rw [← hvis, ← hident]
    rfl

end TagDispatch.Derive
