import TagDispatch.Proofs.AttributeFaults

/-!
# The first fault of an item

Which items declare a registry, said without the order in which an item is checked, and which fault
is reported for one that does not. The variants are read like the attributes, up to the first one
with a fault: those ahead of it are as they should be, and what comes behind does not matter.
-/

namespace TagDispatch.Derive

/-! ## Variants -/

theorem spelling_eq_tag_iff {i : Ident} : i.spelling = "Tag" ↔ i = ⟨"Tag", false⟩ := by
  obtain ⟨text, raw⟩ := i
  cases raw with
  | false => simp [Ident.spelling]
  | true =>
    have hne : "r#" ++ text ≠ "Tag" := by
      intro h
      have hlist := congrArg String.toList h
      simp at hlist
    simpa [Ident.spelling] using hne

namespace ItemVariant

/-- The variant is as it should be: it is not spelled like the enum of tags, and carries nothing or
one unnamed field. -/
structure Allowed (v : ItemVariant) : Prop where
  name : v.ident.spelling ≠ "Tag"
  fields : v.fields = .unit ∨ ∃ type, v.fields = .unnamed [type]

/-- The fault of a variant; its name comes before its fields. -/
inductive Fault (v : ItemVariant) : DeriveError → Prop
  | tag (h : v.ident.spelling = "Tag") : Fault v .tagVariant
  | count {types : List Words} (h : v.ident.spelling ≠ "Tag") (hfields : v.fields = .unnamed types)
      (hcount : types.length ≠ 1) : Fault v .payloadCount
  | named (h : v.ident.spelling ≠ "Tag") (hfields : v.fields = .named) : Fault v .namedFields

variable {v : ItemVariant}

theorem allowed_iff : (∃ w, variantOf v = .ok w) ↔ v.Allowed := by
  simp only [variantOf_eq_ok_iff]
  constructor
  · rintro ⟨w, hname, rfl⟩
    refine ⟨mt spelling_eq_tag_iff.mp hname, ?_⟩
    cases hfield : w.field with
    | none => exact Or.inl (by simp [itemVariant, hfield])
    | some type => exact Or.inr ⟨type, by simp [itemVariant, hfield]⟩
  · rintro ⟨hname, hfields⟩
    have hne := mt spelling_eq_tag_iff.mpr hname
    obtain ⟨ident, fields⟩ := v
    rcases hfields with rfl | ⟨type, rfl⟩
    · exact ⟨⟨ident, none⟩, hne, rfl⟩
    · exact ⟨⟨ident, some type⟩, hne, rfl⟩

theorem fault_iff {e : DeriveError} : variantOf v = .error e ↔ v.Fault e := by
  obtain ⟨ident, fields⟩ := v
  by_cases hname : ident.spelling = "Tag"
  · rw [variantOf, if_pos (spelling_eq_tag_iff.mp hname)]
    constructor
    · intro h
      rw [← Except.error.inj h]
      exact .tag hname
    · intro h
      cases h <;> first | rfl | contradiction
  · rw [variantOf, if_neg (mt spelling_eq_tag_iff.mpr hname), map_eq_error_iff]
    constructor
    · intro h
      rcases fields with _ | types | _
      · cases h
      · rcases types with _ | ⟨type, _ | ⟨type', rest⟩⟩
        · rw [← Except.error.inj h]
          exact .count hname rfl (by simp)
        · cases h
        · rw [← Except.error.inj h]
          exact .count hname rfl (by simp)
      · rw [← Except.error.inj h]
        exact .named hname rfl
    · intro h
      cases h with
      | tag htag => exact absurd htag hname
      | @count types _ hfields hcount =>
        obtain rfl : fields = .unnamed types := hfields
        rcases types with _ | ⟨type, _ | ⟨type', rest⟩⟩
        · rfl
        · exact absurd rfl hcount
        · rfl
      | named _ hfields =>
        obtain rfl : fields = .named := hfields
        rfl

end ItemVariant

theorem variantsOf_eq (vs : List ItemVariant) : variantsOf vs = vs.mapM variantOf := by
  induction vs with
  | nil => rfl
  | cons v rest ih =>
    rw [variantsOf_cons, ih, List.mapM_cons]
    cases variantOf v with
    | error e => rfl
    | ok w => cases rest.mapM variantOf <;> rfl

theorem variantsOf_eq_error_iff {vs : List ItemVariant} {e : DeriveError} :
    variantsOf vs = .error e ↔ ∃ before v after, vs = before ++ v :: after ∧
      (∀ w ∈ before, w.Allowed) ∧ v.Fault e := by
  rw [variantsOf_eq, mapM_eq_error_iff]
  simp only [ItemVariant.allowed_iff, ItemVariant.fault_iff]

theorem exists_variantsOf_iff {vs : List ItemVariant} :
    (∃ ws, variantsOf vs = .ok ws) ↔ ∀ v ∈ vs, v.Allowed := by
  constructor
  · rintro ⟨ws, h⟩ v hv
    obtain ⟨hnames, rfl⟩ := variantsOf_eq_ok_iff.mp h
    obtain ⟨w, -, hw⟩ := List.mem_map.mp hv
    exact ItemVariant.allowed_iff.mp ⟨w, variantOf_eq_ok_iff.mpr ⟨hnames v hv, hw.symm⟩⟩
  · intro hallowed
    cases hvariants : variantsOf vs with
    | ok ws => exact ⟨ws, rfl⟩
    | error e =>
      obtain ⟨before, v, after, heq, -, hfault⟩ := variantsOf_eq_error_iff.mp hvariants
      obtain ⟨w, hw⟩ := ItemVariant.allowed_iff.mpr (hallowed v (by rw [heq]; simp))
      rw [← ItemVariant.fault_iff, hw] at hfault
      cases hfault

/-! ## Modules -/

/-- The text can be a name. -/
def IsName (text : String) : Prop := ∃ i, nameOfSpelling? text = some i

section Modules

variable {snake : String → String}

theorem moduleOf_eq_ok_iff {ident module : Ident} {given : List Ident} :
    moduleOf snake ident given = .ok module ↔ given.getLast? = some module ∨
      given = [] ∧ nameOfSpelling? (snake ident.spelling) = some module := by
  unfold moduleOf
  cases hlast : given.getLast? with
  | some name =>
    have hne : given ≠ [] := by
      rintro rfl
      cases hlast
    simp [hne]
  | none =>
    rw [List.getLast?_eq_none_iff] at hlast
    dsimp only
    cases nameOfSpelling? (snake ident.spelling) <;> simp [hlast]

theorem moduleOf_eq_error_iff {ident : Ident} {given : List Ident} {e : DeriveError} :
    moduleOf snake ident given = .error e ↔ given = [] ∧ ¬IsName (snake ident.spelling) ∧
      e = .moduleName (snake ident.spelling) := by
  unfold moduleOf IsName
  cases hlast : given.getLast? with
  | some name =>
    have hne : given ≠ [] := by
      rintro rfl
      cases hlast
    simp [hne]
  | none =>
    rw [List.getLast?_eq_none_iff] at hlast
    dsimp only
    cases nameOfSpelling? (snake ident.spelling) <;> simp [hlast, eq_comm]

end Modules

/-! ## Items -/

namespace Item

variable {item : Item}

/-- The item is an enum without parameters and with variants. -/
structure Shaped (item : Item) : Prop where
  enum : item.kind = .enum
  plain : item.generic = false
  inhabited : item.variants ≠ []

/-- The attributes are as they should be and give names to the module, in order. -/
def GivesNames (item : Item) (names : List Ident) : Prop :=
  ∃ given, List.Forall₂ Attribute.Gives item.attributes given ∧ given.flatten = names

/-- The module: the last name that is given, or else the name of the enum in snake case. -/
def HasModule (item : Item) (names : List Ident) (module : Ident) : Prop :=
  names.getLast? = some module ∨
    names = [] ∧ nameOfSpelling? (Text.snakeCase item.ident.spelling) = some module

/-- The item declares a registry. -/
structure Declares (item : Item) (d : Declaration) : Prop where
  shaped : item.Shaped
  module : ∃ names, item.GivesNames names ∧ item.HasModule names d.module
  allowed : ∀ v ∈ item.variants, v.Allowed
  variants : item.variants = d.registry.variants.map itemVariant
  visibility : d.visibility = item.visibility
  ident : d.registry.ident = item.ident

/-- The first fault of an item: all that is checked before is as it should be. -/
inductive FirstFault (item : Item) : DeriveError → Prop
  | notEnum (h : item.kind ≠ .enum) : FirstFault item .notEnum
  | generic (henum : item.kind = .enum) (h : item.generic = true) : FirstFault item .generic
  | noVariants (henum : item.kind = .enum) (hplain : item.generic = false)
      (h : item.variants = []) : FirstFault item .noVariants
  | inAttribute {before after : List Attribute} {a : Attribute} {e : AttributeError}
      (hshaped : item.Shaped) (hattributes : item.attributes = before ++ a :: after)
      (hbefore : ∀ b ∈ before, ∃ names, b.Gives names) (h : a.Fault e) :
      FirstFault item (.inAttribute e)
  | moduleName (hshaped : item.Shaped) (hnames : item.GivesNames [])
      (h : ¬IsName (Text.snakeCase item.ident.spelling)) :
      FirstFault item (.moduleName (Text.snakeCase item.ident.spelling))
  | variant {names : List Ident} {module : Ident} {before after : List ItemVariant}
      {v : ItemVariant} {e : DeriveError} (hshaped : item.Shaped) (hnames : item.GivesNames names)
      (hmodule : item.HasModule names module) (hvariants : item.variants = before ++ v :: after)
      (hbefore : ∀ w ∈ before, w.Allowed) (h : v.Fault e) : FirstFault item e

theorem declares_iff {d : Declaration} : Declaration.ofItem item = .ok d ↔ item.Declares d := by
  rw [Declaration.ofItem_eq_ok_iff]
  simp only [givenNames_eq_ok_iff, moduleOf_eq_ok_iff]
  constructor
  · rintro ⟨⟨henum, hplain, hinhabited⟩, hmodule, hnames, hvariants, hvisibility, hident⟩
    have hok := variantsOf_eq_ok_iff.mpr ⟨hnames, hvariants⟩
    exact ⟨⟨henum, hplain, hinhabited⟩, hmodule, exists_variantsOf_iff.mp ⟨_, hok⟩, hvariants,
      hvisibility, hident⟩
  · rintro ⟨⟨henum, hplain, hinhabited⟩, hmodule, hallowed, hvariants, hvisibility, hident⟩
    refine ⟨⟨henum, hplain, hinhabited⟩, hmodule, fun v hv => ?_, hvariants, hvisibility, hident⟩
    exact mt spelling_eq_tag_iff.mpr (hallowed v hv).name

/-- An item that is shaped like an enum is read part by part. -/
theorem ofItem_of_shaped (h : item.Shaped) :
    Declaration.ofItem item = givenNames item.attributes >>= fun given =>
      moduleOf Text.snakeCase item.ident given >>= fun module =>
        variantsOf item.variants >>= fun variants =>
          pure ⟨item.visibility, module, ⟨item.ident, variants⟩⟩ := by
  simp only [Declaration.ofItem, h.enum, h.plain, h.inhabited, ne_eq, not_true_eq_false, if_false,
    Bool.false_eq_true]

theorem firstFault_of_not_shaped (h : ¬item.Shaped) :
    ∃ e, item.FirstFault e ∧ Declaration.ofItem item = .error e := by
  by_cases henum : item.kind = .enum
  · cases hplain : item.generic with
    | true => exact ⟨_, .generic henum hplain, by simp [Declaration.ofItem, henum, hplain]; rfl⟩
    | false =>
      have hnone : item.variants = [] := by
        by_contra hinhabited
        exact h ⟨henum, hplain, hinhabited⟩
      exact ⟨_, .noVariants henum hplain hnone,
        by simp [Declaration.ofItem, henum, hplain, hnone]; rfl⟩
  · exact ⟨_, .notEnum henum, by simp [Declaration.ofItem, henum]; rfl⟩

theorem FirstFault.eq_of_not_shaped {e e' : DeriveError} (h : ¬item.Shaped)
    (he : item.FirstFault e) (he' : item.FirstFault e') : e = e' := by
  cases he <;> cases he' <;> simp_all

/-- Behind its shape an item fails in an attribute, in the name of the module or in a variant. -/
theorem ofItem_eq_error_iff_of_shaped (h : item.Shaped) {e : DeriveError} :
    Declaration.ofItem item = .error e ↔
      givenNames item.attributes = .error e ∨
        ∃ names, item.GivesNames names ∧ (moduleOf Text.snakeCase item.ident names = .error e ∨
          ∃ module, item.HasModule names module ∧ variantsOf item.variants = .error e) := by
  have hpure : ∀ d : Declaration, (pure d : Except DeriveError Declaration) ≠ .error e := by
    intro d h
    cases h
  rw [ofItem_of_shaped h]
  simp only [bind_eq_error_iff, givenNames_eq_ok_iff, moduleOf_eq_ok_iff, hpure, and_false,
    exists_false, or_false]
  rfl

theorem firstFault_iff {e : DeriveError} :
    Declaration.ofItem item = .error e ↔ item.FirstFault e := by
  by_cases hshaped : item.Shaped
  · rw [ofItem_eq_error_iff_of_shaped hshaped, givenNames_eq_error_iff]
    simp only [moduleOf_eq_error_iff, variantsOf_eq_error_iff]
    constructor
    · rintro (⟨before, a, after, e', hattributes, hbefore, h, rfl⟩ |
        ⟨names, hnames, ⟨rfl, h, rfl⟩ |
          ⟨module, hmodule, before, v, after, hvariants, hbefore, h⟩⟩)
      · exact .inAttribute hshaped hattributes hbefore h
      · exact .moduleName hshaped hnames h
      · exact .variant hshaped hnames hmodule hvariants hbefore h
    · intro h
      cases h with
      | notEnum h => exact absurd hshaped.enum h
      | generic _ h =>
        rw [hshaped.plain] at h
        cases h
      | noVariants _ _ h => exact absurd h hshaped.inhabited
      | inAttribute _ hattributes hbefore h =>
        exact Or.inl ⟨_, _, _, _, hattributes, hbefore, h, rfl⟩
      | moduleName _ hnames h => exact Or.inr ⟨_, hnames, Or.inl ⟨rfl, h, rfl⟩⟩
      | variant _ hnames hmodule hvariants hbefore h =>
        exact Or.inr ⟨_, hnames, Or.inr ⟨_, hmodule, _, _, _, hvariants, hbefore, h⟩⟩
  · obtain ⟨e', hfault, hitem⟩ := firstFault_of_not_shaped hshaped
    rw [hitem, Except.error.injEq]
    constructor
    · rintro rfl
      exact hfault
    · exact hfault.eq_of_not_shaped hshaped

/-! ## What settles whether an item is accepted -/

/-- A name that is given settles the module, and otherwise the name of the enum has to do. -/
theorem exists_hasModule_iff {names : List Ident} :
    (∃ module, item.HasModule names module) ↔
      names ≠ [] ∨ IsName (Text.snakeCase item.ident.spelling) := by
  unfold HasModule IsName
  by_cases hnames : names = []
  · simp [hnames]
  · simp [hnames, List.getLast?_eq_some_getLast]

theorem exists_declares_iff :
    (∃ d, item.Declares d) ↔ item.Shaped ∧
      (∃ names, item.GivesNames names ∧ ∃ module, item.HasModule names module) ∧
      ∀ v ∈ item.variants, v.Allowed := by
  constructor
  · rintro ⟨d, h⟩
    obtain ⟨names, hnames, hmodule⟩ := h.module
    exact ⟨h.shaped, ⟨names, hnames, d.module, hmodule⟩, h.allowed⟩
  · rintro ⟨hshaped, ⟨names, hnames, module, hmodule⟩, hallowed⟩
    obtain ⟨ws, hvariants⟩ := exists_variantsOf_iff.mpr hallowed
    exact ⟨⟨item.visibility, module, ⟨item.ident, ws⟩⟩, hshaped, ⟨names, hnames, hmodule⟩,
      hallowed, (variantsOf_eq_ok_iff.mp hvariants).2, rfl, rfl⟩

end Item

namespace Replies

/-- An enum whose second and third variants have a fault each. -/
def item : Item where
  kind := .enum
  ident := ⟨"Type", false⟩
  visibility := []
  generic := false
  attributes := [⟨[.ident ⟨"repr", false⟩], .bare⟩,
    ⟨[.ident ⟨"tagmatch", false⟩], .list (moduleItem false ⟨"replies", false⟩)⟩]
  variants := [⟨⟨"Some", false⟩, .unnamed [["u8"]]⟩, ⟨⟨"None", false⟩, .named⟩,
    ⟨⟨"Tag", false⟩, .unit⟩]

end Replies

end TagDispatch.Derive
