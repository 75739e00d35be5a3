import TagDispatch.Proofs.Emission
import TagDispatch.Proofs.Reading

/-!
# The laws of derived registries

The code that is emitted for an accepted enum makes the enum the sum of its variants: every marker
injects payloads and gets back exactly what it injected, no other marker does, and every value is
injected by one marker. The tags are listed completely and once, and their names tell them apart.
-/

namespace TagDispatch.Derive

/-! ## Spellings -/

theorem continuesIdent_of_mem {cs : List Char} (h : isIdentText cs) {c : Char} (hc : c ∈ cs) :
    continuesIdent c := by
  cases cs with
  | nil => cases hc
  | cons b rest =>
    obtain ⟨hb, hrest⟩ := Bool.and_eq_true_iff.mp h
    rcases List.mem_cons.mp hc with rfl | hmem
    · exact continuesIdent_of_beginsIdent hb
    · exact List.all_eq_true.mp hrest c hmem

/-- Identifiers with the same spelling have the same text, since no text contains the number sign
of a raw spelling. -/
theorem text_eq_of_spelling_eq {i j : Ident} (hi : isIdentText i.text.toList)
    (hj : isIdentText j.text.toList) (h : i.spelling = j.spelling) : i.text = j.text := by
  -- a raw spelling is no text
  have hraw : ∀ s t : String, isIdentText t.toList → "r#" ++ s ≠ t := by
    rintro s t ht rfl
    have hsign : continuesIdent '#' := continuesIdent_of_mem ht (by simp)
    revert hsign
    decide
  unfold Ident.spelling at h
  cases hi' : i.raw <;> cases hj' : j.raw <;> simp only [hi', hj'] at h
  · exact h
  · exact absurd h.symm (hraw _ _ hi)
  · exact absurd h (hraw _ _ hj)
  · simpa using h

namespace Declaration

variable {X : Type} {typing : Typing X} {x x' : Value X} {d : Declaration} {item : Item}
  {w w' : Variant Words}

namespace Describes

variable (h : d.Describes item)

include h

/-! ## Payloads and values -/

theorem isPayload_iff (hw : w ∈ d.registry.variants) :
    (d.scope item).IsPayload typing (itemVariant w) x ↔
      (payloadType w).HasValue typing (d.markerPath w.ident) x := by
  unfold Scope.IsPayload
  rw [h.payloadType?_eq hw]
  simp only [Option.some.injEq, exists_eq_left']
  rfl

theorem isPayload_iff_of_none (hw : w ∈ d.registry.variants) (hfield : w.field = none) :
    (d.scope item).IsPayload typing (itemVariant w) x ↔ x = .unit := by
  rw [h.isPayload_iff hw, payloadType, hfield]
  cases x <;> simp [TypeExpr.HasValue]

theorem isPayload_iff_of_some (hw : w ∈ d.registry.variants) {ws : Words}
    (hfield : w.field = some ws) :
    (d.scope item).IsPayload typing (itemVariant w) x ↔
      ∃ y, x = .payload y ∧ typing.Holds (d.markerPath w.ident) ws y := by
  rw [h.isPayload_iff hw, payloadType, hfield]
  cases x <;> simp [TypeExpr.HasValue]

theorem eq_unit_of_isPayload (hw : w ∈ d.registry.variants)
    (hx : (d.scope item).IsPayload typing (itemVariant w) x) : w.field = none → x = .unit :=
  fun hfield => (h.isPayload_iff_of_none hw hfield).mp hx

/-- Variants and payloads are recovered from the values that they make. -/
theorem formed_inj (hw : w ∈ d.registry.variants) (hw' : w' ∈ d.registry.variants)
    (hx : (d.scope item).IsPayload typing (itemVariant w) x)
    (hx' : (d.scope item).IsPayload typing (itemVariant w') x') :
    formed w x = formed w' x' ↔ w = w' ∧ x = x' := by
  constructor
  · intro heq
    have hconstructor := congrArg Value.constructor? heq
    rw [constructor?_formed, constructor?_formed] at hconstructor
    obtain rfl : w = w' := by simpa using hconstructor
    refine ⟨rfl, ?_⟩
    cases hfield : w.field with
    | none => rw [h.eq_unit_of_isPayload hw hx hfield, h.eq_unit_of_isPayload hw hx' hfield]
    | some ws => simpa [formed, hfield] using heq
  · rintro ⟨rfl, rfl⟩
    rfl

/-- The values of the enum are those that its variants make of their payloads: a payload has the
type that its field has in the enum, unless that type depends on what `Self` is. -/
theorem hasValue_iff (hself : ∀ w ∈ d.registry.variants, ∀ ws, w.field = some ws → "Self" ∉ ws)
    {e : Value X} :
    item.HasValue typing e ↔ ∃ w ∈ d.registry.variants, ∃ x,
      (d.scope item).IsPayload typing (itemVariant w) x ∧ formed w x = e := by
  constructor
  · intro he
    cases he with
    | constant hv hfields =>
      obtain ⟨w, hw, rfl⟩ := h.mem_iff.mp hv
      cases hfield : w.field with
      | none =>
        refine ⟨w, hw, .unit, (h.isPayload_iff_of_none hw hfield).mpr rfl, ?_⟩
        rw [formed, hfield]
      | some ws => simp [itemVariant, hfield] at hfields
    | @applied _ ws y hv hfields hy =>
      obtain ⟨w, hw, rfl⟩ := h.mem_iff.mp hv
      cases hfield : w.field with
      | none => simp [itemVariant, hfield] at hfields
      | some ws' =>
        obtain rfl : ws' = ws := by simpa [itemVariant, hfield] using hfields
        -- the field is read where `Self` is the enum, and the payload where it is the marker
        have hy' := (typing.holds_iff _ (d.markerPath w.ident) y (hself w hw _ hfield)).mp hy
        refine ⟨w, hw, .payload y, (h.isPayload_iff_of_some hw hfield).mpr ⟨y, rfl, hy'⟩, ?_⟩
        rw [formed, hfield]
  · rintro ⟨w, hw, x, hx, rfl⟩
    have hv := h.mem_iff.mpr ⟨w, hw, rfl⟩
    unfold formed
    cases hfield : w.field with
    | none => exact .constant hv (by simp [itemVariant, hfield])
    | some ws =>
      obtain ⟨y, rfl, hy⟩ := (h.isPayload_iff_of_some hw hfield).mp hx
      exact .applied hv (by simp [itemVariant, hfield])
        ((typing.holds_iff _ _ y (hself w hw ws hfield)).mpr hy)

/-! ## Tags -/

theorem variantTags_eq :
    item.variants.map (d.scope item).variantTag? =
      (d.idents.map fun i => Constructor.tag i.text).map fun t => some (.constant t : Value X) := by
  rw [h.variants, idents, List.map_map, List.map_map, List.map_map]
  exact List.map_congr_left fun w hw => h.variantTag?_eq hw

theorem tags_nodup : (d.idents.map fun i => Constructor.tag i.text).Nodup := by
  have htags := h.names_nodup.map fun _ _ => Constructor.tag.inj
  rw [List.map_map] at htags
  rw [idents, List.map_map]
  exact htags

theorem tagNames_eq :
    ((d.idents.map fun i => Constructor.tag i.text).map fun t =>
        (d.scope item).nameOf? (.constant t : Value X)) =
      (d.idents.map Ident.spelling).map fun name => some (.text name) := by
  rw [idents, List.map_map, List.map_map, List.map_map, List.map_map]
  exact List.map_congr_left fun w hw => h.nameOf?_tag hw

theorem spellings_nodup (hidents : ∀ v ∈ item.variants, isIdentText v.ident.text.toList) :
    (d.idents.map Ident.spelling).Nodup := by
  have hvalid : ∀ w ∈ d.registry.variants, isIdentText w.ident.text.toList :=
    fun w hw => hidents _ (h.mem_iff.mpr ⟨w, hw, rfl⟩)
  rw [idents, List.map_map]
  refine h.names_nodup.of_map.map_on fun w hw w' hw' heq => ?_
  exact (h.text_inj hw hw').mp (text_eq_of_spelling_eq (hvalid w hw) (hvalid w' hw') heq)

end Describes

end Declaration

/-! ## The laws -/

variable {X : Type}

/-- What the code tells of a value `e` that is made of a variant `v` and a payload `x`: it has the
tag of `v`, the marker of `v` finds `x` in it, and any other marker leaves it as it is. -/
structure Scope.Tells (s : Scope) (v : ItemVariant) (x e : Value X) : Prop where
  tag : ∃ t, s.tagOf? e = some t ∧ s.variantTag? v = some t ∧ s.markerTag? v = some t
  peek_own : s.peek? v e = some (.applied .some x)
  take_own : s.take? v e = some (.applied .ok x)
  peek_other : ∀ w ∈ s.item.variants, w ≠ v → s.peek? w e = some (.constant .none)
  take_other : ∀ w ∈ s.item.variants, w ≠ v → s.take? w e = some (.applied .error e)

theorem Declaration.Describes.tells {d : Declaration} {item : Item} (h : d.Describes item)
    {w : Variant Words} {x : Value X} (hw : w ∈ d.registry.variants)
    (hx : w.field = none → x = .unit) :
    (d.scope item).Tells (itemVariant w) x (formed w x) where
  tag := ⟨_, h.tagOf?_formed hw, h.variantTag?_eq hw, h.markerTag?_eq hw⟩
  peek_own := by rw [h.peek?_formed hw hx, if_pos rfl]
  take_own := by rw [h.take?_formed hw hx, if_pos rfl]
  peek_other := by
    intro v hv hne
    obtain ⟨w', hw', rfl⟩ := h.mem_iff.mp hv
    rw [h.peek?_formed hw' hx, if_neg fun heq => hne (congrArg itemVariant heq)]
  take_other := by
    intro v hv hne
    obtain ⟨w', hw', rfl⟩ := h.mem_iff.mp hv
    rw [h.take?_formed hw' hx, if_neg fun heq => hne (congrArg itemVariant heq)]

/-- **Registry laws.** Take an accepted item whose variants have distinct names and no field
whose type mentions `Self`. Every payload of a variant is injected, and the value tells its tag
and its payload to the marker of that variant and to no other. Every value of the enum is
injected by one variant with one payload. The tags are those of the variants in declaration
order, each of them once, and no two of them have the same name. -/
theorem Declaration.registry_laws {item : Item} {d : Declaration}
    (hd : Declaration.ofItem item = .ok d)
    (hidents : ∀ v ∈ item.variants, isIdentText v.ident.text.toList)
    (hnames : (item.variants.map fun v => v.ident.text).Nodup)
    (hself : ∀ v ∈ item.variants, ∀ ws, v.fields = .unnamed [ws] → "Self" ∉ ws)
    (typing : Typing X) :
    (∀ v ∈ item.variants, ∀ x, (d.scope item).IsPayload typing v x →
      ∃ e, (d.scope item).inject? v x = some e ∧ item.HasValue typing e ∧
        (d.scope item).Tells v x e) ∧
    (∀ e, item.HasValue typing e →
      ∃! made : ItemVariant × Value X, made.1 ∈ item.variants ∧
        (d.scope item).IsPayload typing made.1 made.2 ∧
        (d.scope item).inject? made.1 made.2 = some e) ∧
    ∃ (tags : List Constructor) (names : List String),
      (d.scope item).tags? = some (.constants tags : Value X) ∧ tags.Nodup ∧
      (tags = d.expand.tags.map fun t => .tag t.ident.text) ∧
      (item.variants.map (d.scope item).variantTag? =
        tags.map fun t => some (.constant t : Value X)) ∧
      ((tags.map fun t => (d.scope item).nameOf? (.constant t : Value X)) =
        names.map fun name => some (.text name)) ∧
      names.Nodup := by
  have h := describes_of_ofItem hd hnames
  have hself' : ∀ w ∈ d.registry.variants, ∀ ws, w.field = some ws → "Self" ∉ ws := by
    intro w hw ws hfield
    refine hself _ (h.mem_iff.mpr ⟨w, hw, rfl⟩) ws ?_
    rw [itemVariant, hfield]
    rfl
  refine ⟨?_, ?_, ?_⟩
  · intro v hv x hx
    obtain ⟨w, hw, rfl⟩ := h.mem_iff.mp hv
    have hunit := h.eq_unit_of_isPayload hw hx
    exact ⟨formed w x, h.inject?_eq hw hunit, (h.hasValue_iff hself').mpr ⟨w, hw, x, hx, rfl⟩,
      h.tells hw hunit⟩
  · intro e he
    obtain ⟨w, hw, x, hx, rfl⟩ := (h.hasValue_iff hself').mp he
    refine ⟨(itemVariant w, x), ⟨h.mem_iff.mpr ⟨w, hw, rfl⟩, hx,
      h.inject?_eq hw (h.eq_unit_of_isPayload hw hx)⟩, ?_⟩
    rintro ⟨v, x'⟩ ⟨hv, hx', hinject⟩
    obtain ⟨w', hw', rfl⟩ := h.mem_iff.mp hv
    rw [h.inject?_eq hw' (h.eq_unit_of_isPayload hw' hx')] at hinject
    obtain ⟨rfl, rfl⟩ := (h.formed_inj hw' hw hx' hx).mp (Option.some.inj hinject)
    rfl
  · refine ⟨_, _, h.tags?_eq, h.tags_nodup, ?_, h.variantTags_eq, h.tagNames_eq,
      h.spellings_nodup hidents⟩
    rw [expand_tags, List.map_map]
    rfl

/-! ## Moves -/

namespace Moves

def stay : ItemVariant := ⟨⟨"Stay", false⟩, .unit⟩

/-- A variant whose name is a keyword. -/
def typed : ItemVariant := ⟨⟨"type", true⟩, .unnamed [["i64"]]⟩

def item : Item where
  kind := .enum
  ident := ⟨"Move", false⟩
  visibility := ["pub"]
  generic := false
  attributes := [{
    path := [.ident ⟨"tagmatch", false⟩]
    form := .list [.ident ⟨"module", false⟩, .mark '=' false, .ident ⟨"moves", false⟩] }]
  variants := [stay, typed]

def declaration : Declaration where
  visibility := ["pub"]
  module := ⟨"moves", false⟩
  registry := ⟨⟨"Move", false⟩, [⟨⟨"Stay", false⟩, none⟩, ⟨⟨"type", true⟩, some ["i64"]⟩]⟩

/-- The type `i64` has all numbers here, and no other type has any. -/
def typing : Typing Int where
  Holds _ ws _ := ws = ["i64"]
  holds_iff _ _ _ _ := Iff.rfl

example : (declaration.scope item).peek? stay (.applied (.variant typed) (.payload 7) : Value Int) =
    some (.constant .none) := by
  decide

theorem seven_laws :
    (∃ e, (declaration.scope item).inject? typed (.payload 7) = some e ∧
      item.HasValue typing e ∧ (declaration.scope item).Tells typed (.payload 7) e) ∧
    (∃! made : ItemVariant × Value Int, made.1 ∈ item.variants ∧
      (declaration.scope item).IsPayload typing made.1 made.2 ∧
      (declaration.scope item).inject? made.1 made.2 = some (.constant (.variant stay))) ∧
    ∃ tags : List Constructor,
      (declaration.scope item).tags? = some (.constants tags : Value Int) ∧ tags.Nodup := by
  have hself : ∀ v ∈ item.variants, ∀ ws, v.fields = .unnamed [ws] → "Self" ∉ ws := by
    simp [item, stay, typed]
  have hseven : (declaration.scope item).IsPayload typing typed (.payload 7) := ⟨_, rfl, rfl⟩
  have hstay : item.HasValue typing (.constant (.variant stay)) := .constant (by decide) rfl
  obtain ⟨hinject, hvalues, tags, names, htags, hnodup, -⟩ :=
    Declaration.registry_laws (d := declaration) rfl (by decide) (by decide) hself typing
  exact ⟨hinject typed (by decide) _ hseven, hvalues _ hstay, tags, htags, hnodup⟩

end Moves

end TagDispatch.Derive
