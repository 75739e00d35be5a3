import TagDispatch.Proofs.Emission

/-!
# Emitted code and closed registries

The code that is emitted for a declaration computes what the registry of the declaration does: under
an encoding of tags, payloads and values the markers are the patterns of the tags. So what is proved
of the patterns of a registry holds of the emitted markers.
-/

namespace TagDispatch.Derive.Declaration

variable {den : Words → Type} {d : Declaration}

/-! ## The encoding -/

/-- A payload as the code holds it. -/
def encodePayload : (field : Option Words) → Registry.Carried den field → Value (Σ ws, den ws)
  | none, _ => .unit
  | some ws, x => .payload ⟨ws, x⟩

/-- A tag as the code holds it. -/
def encodeTag {X : Type} (t : d.registry.Tag) : Value X := .constant (.tag t.variant.ident.text)

/-- A value as the code holds it. -/
def encode (v : d.registry.Value den) : Value (Σ ws, den ws) :=
  formed v.tag.variant (encodePayload v.tag.variant.field v.payload)

theorem encodePayload_of_none {field : Option Words} (x : Registry.Carried den field)
    (hfield : field = none) : encodePayload field x = .unit := by
  subst hfield
  rfl

theorem formed_encodePayload_inj {w : Variant Words} {x x' : Registry.Carried den w.field} :
    formed w (encodePayload w.field x) = formed w (encodePayload w.field x') ↔ x = x' := by
  obtain ⟨ident, field⟩ := w
  cases field with
  | none => exact iff_of_true rfl (Subsingleton.elim (α := Unit) x x')
  | some ws =>
    constructor
    · intro heq
      have hpayload : (⟨ws, x⟩ : Σ ws, den ws) = ⟨ws, x'⟩ := by
        simpa [formed, encodePayload] using heq
      exact eq_of_heq (Sigma.mk.inj hpayload).2
    · rintro rfl
      rfl

theorem variant_mem (t : d.registry.Tag) : t.variant ∈ d.registry.variants :=
  List.getElem_mem t.place.isLt

namespace Describes

variable {item : Item} (h : d.Describes item)

include h

theorem variant_inj (t t' : d.registry.Tag) : t.variant = t'.variant ↔ t = t' := by
  -- places are told apart by their variants, of which no two are equal
  have hvariants : d.registry.variants.Nodup := h.names_nodup.of_map
  rw [Registry.Tag.ext_iff, Fin.ext_iff]
  exact hvariants.getElem_inj_iff

/-- Values with one encoding are equal. -/
theorem encode_injective : Function.Injective (@encode den d) := by
  rintro ⟨t, x⟩ ⟨t', x'⟩ heq
  have hconstructor := congrArg Value.constructor? heq
  rw [encode, encode, constructor?_formed, constructor?_formed] at hconstructor
  obtain rfl : t = t' := by simpa [h.variant_inj] using hconstructor
  obtain rfl : x = x' := formed_encodePayload_inj.mp heq
  rfl

/-! ## Refinement -/

theorem inject?_encode (t : d.registry.Tag) (x : d.registry.Payload den t) :
    (d.scope item).inject? (itemVariant t.variant) (encodePayload t.variant.field x) =
      some (encode (t.value x)) :=
  h.inject?_eq (variant_mem t) (encodePayload_of_none x)

theorem tagOf?_encode (v : d.registry.Value den) :
    (d.scope item).tagOf? (encode v) = some (encodeTag v.tag) :=
  h.tagOf?_formed (variant_mem v.tag)

/-- A marker looks at what the pattern of its tag shows. -/
theorem peek?_encode (t : d.registry.Tag) (v : d.registry.Value den) :
    (d.scope item).peek? (itemVariant t.variant) (encode v) =
      some (((t.pattern den).peek? v).elim (.constant .none) fun x =>
        .applied .some (encodePayload t.variant.field x)) := by
  obtain ⟨t', x⟩ := v
  rw [encode, h.peek?_formed (variant_mem t) (encodePayload_of_none x)]
  by_cases htag : t' = t
  · subst htag
    have hpeek : (t'.pattern den).peek? ⟨t', x⟩ = some x := Registry.payload?_value t' x
    rw [if_pos rfl, hpeek]
    rfl
  · have hpeek : (t.pattern den).peek? ⟨t', x⟩ = none := Registry.payload?_of_ne htag
    rw [if_neg fun heq => htag ((h.variant_inj _ _).mp heq).symm, hpeek]
    rfl

/-- A marker takes what the pattern of its tag takes, and gives back what it gives back. -/
theorem take?_encode (t : d.registry.Tag) (v : d.registry.Value den) :
    (d.scope item).take? (itemVariant t.variant) (encode v) =
      some (match (t.pattern den).take v with
        | .ok x => .applied .ok (encodePayload t.variant.field x)
        | .error v' => .applied .error (encode v')) := by
  have hlawful := Registry.pattern_lawful t v
  obtain ⟨t', x⟩ := v
  rw [encode, h.take?_formed (variant_mem t) (encodePayload_of_none x), hlawful.take_eq]
  by_cases htag : t' = t
  · subst htag
    have hpeek : (t'.pattern den).peek? ⟨t', x⟩ = some x := Registry.payload?_value t' x
    rw [if_pos rfl, hpeek]
    rfl
  · have hpeek : (t.pattern den).peek? ⟨t', x⟩ = none := Registry.payload?_of_ne htag
    rw [if_neg fun heq => htag ((h.variant_inj _ _).mp heq).symm, hpeek]
    rfl

theorem tags?_encode {X : Type} :
    (d.scope item).tags? = some (.constants
      (d.registry.tags.map fun t => .tag t.variant.ident.text) : Value X) := by
  have hvariants : d.registry.tags.map Registry.Tag.variant = d.registry.variants := by
    rw [Registry.tags, List.map_map]
    exact List.map_getElem_finRange d.registry.variants
  rw [h.tags?_eq, idents, ← hvariants, List.map_map, List.map_map]
  rfl

theorem nameOf?_encode {X : Type} (t : d.registry.Tag) :
    (d.scope item).nameOf? (encodeTag t : Value X) = some (.text (Tag.name t)) :=
  h.nameOf?_tag (variant_mem t)

end Describes

/-- **Refinement.** For an accepted item whose variants have distinct names, the emitted code makes
values, tells tags, looks at payloads and takes them as the registry of its declaration does, and it
lists and names the tags of that registry. -/
theorem expand_refines_registry {item : Item} (hd : Declaration.ofItem item = .ok d)
    (hnames : (item.variants.map fun v => v.ident.text).Nodup) :
    Function.Injective (@encode den d) ∧
    (∀ (t : d.registry.Tag) (x : d.registry.Payload den t),
      (d.scope item).inject? (itemVariant t.variant) (encodePayload t.variant.field x) =
        some (encode (t.value x))) ∧
    (∀ v : d.registry.Value den, (d.scope item).tagOf? (encode v) = some (encodeTag v.tag)) ∧
    (∀ (t : d.registry.Tag) (v : d.registry.Value den),
      (d.scope item).peek? (itemVariant t.variant) (encode v) =
          some (((t.pattern den).peek? v).elim (.constant .none) fun x =>
            .applied .some (encodePayload t.variant.field x)) ∧
        (d.scope item).take? (itemVariant t.variant) (encode v) =
          some (match (t.pattern den).take v with
            | .ok x => .applied .ok (encodePayload t.variant.field x)
            | .error v' => .applied .error (encode v'))) ∧
    ((d.scope item).tags? = some (.constants
      (d.registry.tags.map fun t => .tag t.variant.ident.text) : Value (Σ ws, den ws))) ∧
    ∀ t : d.registry.Tag,
      (d.scope item).nameOf? (encodeTag t : Value (Σ ws, den ws)) = some (.text (Tag.name t)) := by
  have h := describes_of_ofItem hd hnames
  exact ⟨h.encode_injective, h.inject?_encode, h.tagOf?_encode,
    fun t v => ⟨h.peek?_encode t v, h.take?_encode t v⟩, h.tags?_encode, h.nameOf?_encode⟩

end TagDispatch.Derive.Declaration
