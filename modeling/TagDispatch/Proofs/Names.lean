import TagDispatch.Proofs.RegistryLaws
import TagDispatch.Proofs.SnakeCase

/-!
# Names that clash

An expansion declares names in three scopes: the module beside the enum, the enum of tags and the
markers in the module, and the tags in their enum. Variants with distinct names keep their tags and
markers apart, but two clashes are not ruled out. A variant `r#Tag` is let through, although raw and
plain names are the same and `Tag` is turned down; and the module may have the name of the enum, if
an attribute says so or the name is in snake case as it is.
-/

namespace TagDispatch.Derive

/-- The names that the scopes of an expansion declare; a name is the same raw and plain. -/
def Emitted.scopes (e : Emitted) (enum : Ident) : List (List String) :=
  [[enum.text, e.module.text],
    "Tag" :: e.markers.map fun marker => marker.ident.text,
    e.tags.map fun tag => tag.ident.text]

/-- No scope of the expansion declares a name twice. -/
def Emitted.ClashFree (e : Emitted) (enum : Ident) : Prop := ∀ names ∈ e.scopes enum, names.Nodup

instance (e : Emitted) (enum : Ident) : Decidable (e.ClashFree enum) :=
  inferInstanceAs (Decidable (∀ names ∈ e.scopes enum, names.Nodup))

/-! ## Spellings of modules -/

/-- The number sign is no part of a name. -/
theorem sharp_notMem {i : Ident} (hi : isIdentText i.text.toList) : '#' ∉ i.text.toList :=
  fun hmem => absurd (continuesIdent_of_mem hi hmem) (by decide)

/-- The number sign tells raw spellings from plain ones. -/
theorem sharp_mem_spelling_iff {i : Ident} (hi : isIdentText i.text.toList) :
    '#' ∈ i.spelling.toList ↔ i.raw = true := by
  have hplain := sharp_notMem hi
  unfold Ident.spelling
  cases i.raw <;> simp [hplain]

theorem spelling_identOfSpelling (spelling : String) :
    (identOfSpelling spelling).spelling = spelling := by
  unfold identOfSpelling
  split
  next text heq =>
    apply String.toList_injective
    simp [Ident.spelling, heq]
  next => simp [Ident.spelling]

theorem nameOfSpelling?_eq_some {spelling : String} {i : Ident}
    (h : nameOfSpelling? spelling = some i) :
    i.spelling = spelling ∧ isIdentText i.text.toList := by
  simp only [nameOfSpelling?, Option.ite_none_right_eq_some, Bool.and_eq_true] at h
  obtain ⟨⟨⟨hi, -⟩, -⟩, heq⟩ := h
  obtain rfl := Option.some.inj heq
  exact ⟨spelling_identOfSpelling spelling, hi⟩

section Casing

variable {snake : String → String} (hsnake : Text.Casing snake)

include hsnake

/-- A module that is not named by an attribute has the name of the enum exactly if that name is in
snake case as it is spelled. -/
theorem moduleOf_nil_text_eq_iff {ident module : Ident} (hident : isIdentText ident.text.toList)
    (h : moduleOf snake ident [] = .ok module) :
    module.text = ident.text ↔ snake ident.spelling = ident.spelling := by
  have hname : nameOfSpelling? (snake ident.spelling) = some module := by
    simp only [moduleOf, List.getLast?_nil] at h
    split at h
    next hname => rw [hname, Except.ok.inj h]
    next => cases h
  obtain ⟨hspelling, hmodule⟩ := nameOfSpelling?_eq_some hname
  rw [← hspelling]
  constructor
  · intro htext
    -- snake case neither makes nor loses the sign of a raw name
    have hraw : module.raw = ident.raw := by
      rw [Bool.eq_iff_iff, ← sharp_mem_spelling_iff hmodule, ← sharp_mem_spelling_iff hident,
        hspelling, hsnake.sharp_mem_iff]
    rw [Ident.spelling, Ident.spelling, htext, hraw]
  · exact text_eq_of_spelling_eq hmodule hident

/-- The module and the enum have different names if the last name that is given is another one, and
without such a name if the enum is not in snake case as it is spelled. -/
theorem moduleOf_text_ne_iff {ident module : Ident} {given : List Ident}
    (hident : isIdentText ident.text.toList) (h : moduleOf snake ident given = .ok module) :
    module.text ≠ ident.text ↔
      given.getLast?.elim (snake ident.spelling ≠ ident.spelling)
        fun name => name.text ≠ ident.text := by
  cases hlast : given.getLast? with
  | none =>
    rw [List.getLast?_eq_none_iff.mp hlast] at h
    exact not_congr (moduleOf_nil_text_eq_iff hsnake hident h)
  | some name =>
    rw [moduleOf, hlast] at h
    rw [← Except.ok.inj h]
    rfl

/-- A name with a capital of ASCII is not in snake case. -/
theorem snake_spelling_ne {i : Ident} {c : Char} (hc : c ∈ i.text.toList)
    (hupper : c.isUpper = true) : snake i.spelling ≠ i.spelling := by
  intro heq
  have hmem : c ∈ (snake i.spelling).toList := by
    rw [heq, Ident.spelling]
    cases i.raw <;> simp [hc]
  rw [hsnake.not_isUpper hmem] at hupper
  cases hupper

end Casing

/-! ## Clashes -/

namespace Declaration

variable {item : Item} {d : Declaration}

theorem expand_markers :
    d.expand.markers = d.idents.map fun i => ⟨"Names the `" ++ i.spelling ++ "` variant.", i⟩ :=
  rfl

/-- Since a variant with the plain name `Tag` is turned down, only a raw one has that name. -/
theorem tag_notMem_iff (htags : ∀ v ∈ item.variants, v.ident ≠ ⟨"Tag", false⟩) :
    "Tag" ∉ (item.variants.map fun v => v.ident.text) ↔
      ∀ v ∈ item.variants, v.ident ≠ ⟨"Tag", true⟩ := by
  rw [List.mem_map, not_exists]
  refine forall_congr' fun v => ?_
  rw [not_and]
  refine forall_congr' fun hv => not_congr ?_
  constructor
  · intro htext
    obtain ⟨⟨text, raw⟩, fields⟩ := v
    cases raw with
    | false => exact absurd (congrArg (Ident.mk · false) htext) (htags _ hv)
    | true => exact congrArg (Ident.mk · true) htext
  · intro hident
    rw [hident]

/-- Among variants with distinct names only a raw `Tag` clashes in the module, and the module itself
clashes only with the enum. -/
theorem clashFree_expand_iff (hd : Declaration.ofItem item = .ok d)
    (hnames : (item.variants.map fun v => v.ident.text).Nodup) :
    d.expand.ClashFree item.ident ↔
      (∀ v ∈ item.variants, v.ident ≠ ⟨"Tag", true⟩) ∧ d.module.text ≠ item.ident.text := by
  obtain ⟨-, -, htags, hvariants, -, -⟩ := ofItem_eq_ok_iff.mp hd
  have htexts : d.idents.map Ident.text = item.variants.map fun v => v.ident.text := by
    rw [idents, hvariants, List.map_map, List.map_map]
    rfl
  have hscopes : d.expand.scopes item.ident =
      [[item.ident.text, d.module.text], "Tag" :: item.variants.map fun v => v.ident.text,
        item.variants.map fun v => v.ident.text] := by
    rw [Emitted.scopes, expand_markers, expand_tags, List.map_map, List.map_map, ← htexts]
    rfl
  have houter : [item.ident.text, d.module.text].Nodup ↔ d.module.text ≠ item.ident.text := by
    simp [eq_comm]
  have hmodule : ("Tag" :: item.variants.map fun v => v.ident.text).Nodup ↔
      ∀ v ∈ item.variants, v.ident ≠ ⟨"Tag", true⟩ := by
    rw [List.nodup_cons, and_iff_left hnames, tag_notMem_iff htags]
  rw [Emitted.ClashFree, hscopes, List.forall_mem_cons, List.forall_mem_cons,
    List.forall_mem_singleton, houter, hmodule, and_iff_left hnames, and_comm]

/-- **Clashing names.** Take an accepted item whose variants have distinct names. Its expansion
declares no name twice in a scope exactly if no variant is a raw `Tag` and the module has another
name than the enum: the last name that an attribute gives must be another one, and without such a
name the enum must not be in snake case already. So an enum with a capital of ASCII in its name and
no attribute for the module can clash only in a raw `Tag`. -/
theorem expand_clashFree_iff (hd : Declaration.ofItem item = .ok d)
    (hident : isIdentText item.ident.text.toList)
    (hnames : (item.variants.map fun v => v.ident.text).Nodup) :
    ∃ given, givenNames item.attributes = .ok given ∧
      (d.expand.ClashFree item.ident ↔
        (∀ v ∈ item.variants, v.ident ≠ ⟨"Tag", true⟩) ∧
          given.getLast?.elim (Text.snakeCase item.ident.spelling ≠ item.ident.spelling)
            fun name => name.text ≠ item.ident.text) ∧
      (given = [] → (∃ c ∈ item.ident.text.toList, c.isUpper) →
        (d.expand.ClashFree item.ident ↔ ∀ v ∈ item.variants, v.ident ≠ ⟨"Tag", true⟩)) := by
  obtain ⟨-, ⟨given, hgiven, hmodule⟩, -⟩ := ofItem_eq_ok_iff.mp hd
  have hclash := clashFree_expand_iff hd hnames
  -- the name of the module is read off the item
  rw [moduleOf_text_ne_iff Text.casing_snakeCase hident hmodule] at hclash
  refine ⟨given, hgiven, hclash, ?_⟩
  rintro rfl ⟨c, hc, hupper⟩
  rw [hclash]
  exact and_iff_left (snake_spelling_ne Text.casing_snakeCase hc hupper)

end Declaration

/-! ## Clashing items -/

namespace Clashes

/-- An enum without attributes and with one unit variant. -/
def item (ident variant : Ident) : Item where
  kind := .enum
  ident
  visibility := []
  generic := false
  attributes := []
  variants := [⟨variant, .unit⟩]

def declaration (ident module variant : Ident) : Declaration where
  visibility := []
  module
  registry := ⟨ident, [⟨variant, none⟩]⟩

/-- An enum with a variant that has the name of the enum of tags. -/
def rawTag : Item := item ⟨"E", false⟩ ⟨"Tag", true⟩

/-- An enum whose name is in snake case as it is. -/
def lowerEnum : Item := item ⟨"foo", false⟩ ⟨"A", false⟩

theorem ofItem_rawTag :
    Declaration.ofItem rawTag =
      .ok (declaration ⟨"E", false⟩ ⟨"e", false⟩ ⟨"Tag", true⟩) := by
  decide +kernel

theorem ofItem_lowerEnum :
    Declaration.ofItem lowerEnum =
      .ok (declaration ⟨"foo", false⟩ ⟨"foo", false⟩ ⟨"A", false⟩) := by
  decide +kernel

end Clashes

/-- Items whose expansion declares a name twice are accepted, for either reason. -/
theorem accepted_items_clash :
    ((Clashes.rawTag.variants.map fun v => v.ident.text).Nodup ∧
      ∃ d, Declaration.ofItem Clashes.rawTag = .ok d ∧
        ¬d.expand.ClashFree Clashes.rawTag.ident) ∧
    (Clashes.lowerEnum.variants.map fun v => v.ident.text).Nodup ∧
      ∃ d, Declaration.ofItem Clashes.lowerEnum = .ok d ∧
        ¬d.expand.ClashFree Clashes.lowerEnum.ident :=
  ⟨⟨by decide, _, Clashes.ofItem_rawTag, by decide⟩,
    by decide, _, Clashes.ofItem_lowerEnum, by decide⟩

theorem rawTag_clashFree_iff :
    givenNames Clashes.rawTag.attributes = .ok [] ∧
      ((Clashes.declaration ⟨"E", false⟩ ⟨"e", false⟩ ⟨"Tag", true⟩).expand.ClashFree ⟨"E", false⟩ ↔
        ∀ v ∈ Clashes.rawTag.variants, v.ident ≠ ⟨"Tag", true⟩) := by
  obtain ⟨given, hgiven, -, hcapital⟩ :=
    Declaration.expand_clashFree_iff Clashes.ofItem_rawTag (by decide) (by decide)
  obtain rfl := Except.ok.inj hgiven
  exact ⟨hgiven, hcapital rfl ⟨'E', by decide, by decide⟩⟩

end TagDispatch.Derive
