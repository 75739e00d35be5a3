import TagDispatch.Proofs.FirstFault
import TagDispatch.Proofs.Spellings

/-!
# Well-formed items

What holds of every item that consists of tokens, whatever it declares: its names are legal, every
group in a type is closed, and the visibility is one. A declaration keeps that.
-/

namespace TagDispatch.Derive

open WordStream

/-- A visibility: none, or `pub` alone or with its scope in parentheses. -/
inductive IsVisibility : Words → Prop
  | none : IsVisibility []
  | everywhere : IsVisibility ["pub"]
  | within {scope : Words} (h : Nested scope) : IsVisibility ("pub" :: "(" :: (scope ++ [")"]))

theorem IsVisibility.clear {ws : Words} (h : IsVisibility ws) : Clear endsHeader ws := by
  cases h with
  | none => rfl
  | everywhere => rfl
  | within h => simp +decide [Clear, h.reach_append]

/-- What holds of the parts of every item. -/
structure Item.WellFormed (item : Item) : Prop where
  visibility : IsVisibility item.visibility
  ident : item.ident.Legal
  names : ∀ v ∈ item.variants, v.ident.Legal
  types : ∀ v ∈ item.variants, ∀ types, v.fields = .unnamed types → ∀ type ∈ types, Nested type
  /-- An identifier in a list of an attribute is legal unless it is reserved. -/
  attributes : ∀ a ∈ item.attributes, ∀ tokens, a.form = .list tokens →
    ∀ i, .ident i ∈ tokens → isReserved i = false → i.Legal

/-- What holds of the words and names of every declaration: its names are legal, and what it splices
in is a visibility and nested types. -/
structure Declaration.WellFormed (d : Declaration) : Prop where
  visibility : IsVisibility d.visibility
  ident : d.registry.ident.Legal
  module : d.module.Legal
  names : ∀ w ∈ d.registry.variants, w.ident.Legal
  types : ∀ w ∈ d.registry.variants, ∀ type ∈ w.field, Nested type

/-! ## From items to declarations -/

theorem Listed.mem {tokens : List Token} {names : List Ident} (h : Listed tokens names) {i : Ident}
    (hi : i ∈ names) : .ident i ∈ tokens ∧ isReserved i = false := by
  induction h with
  | nil => cases hi
  | cons hname _ ih =>
    rcases List.mem_cons.mp hi with rfl | hrest
    · exact ⟨by simp [moduleItem], hname⟩
    · exact ⟨List.mem_append_right _ (List.mem_cons_of_mem _ (ih hrest).1), (ih hrest).2⟩

/-- A name that is given stands in the list that gives it. -/
theorem ListsItems.mem {tokens : List Token} {names : List Ident} (h : ListsItems tokens names)
    {i : Ident} (hi : i ∈ names) : .ident i ∈ tokens ∧ isReserved i = false := by
  cases h with
  | terminated h => exact h.mem hi
  | last h hname =>
    rcases List.mem_append.mp hi with hi | hi
    · exact ⟨List.mem_append_left _ (h.mem hi).1, (h.mem hi).2⟩
    · obtain rfl := List.mem_singleton.mp hi
      exact ⟨by simp [moduleItem], hname⟩

theorem exists_gives_of_mem {attributes : List Attribute} {given : List (List Ident)}
    (h : List.Forall₂ Attribute.Gives attributes given) {names : List Ident}
    (hnames : names ∈ given) : ∃ a ∈ attributes, a.Gives names := by
  induction h with
  | nil => cases hnames
  | @cons a own attributes _ ha _ ih =>
    rcases List.mem_cons.mp hnames with rfl | hrest
    · exact ⟨a, List.mem_cons_self, ha⟩
    · obtain ⟨b, hb, hgives⟩ := ih hrest
      exact ⟨b, List.mem_cons_of_mem a hb, hgives⟩

namespace Item

variable {item : Item}

/-- The names that are given to the module are legal. -/
theorem WellFormed.legal_of_givesNames (h : item.WellFormed) {names : List Ident}
    (hnames : item.GivesNames names) {i : Ident} (hi : i ∈ names) : i.Legal := by
  obtain ⟨given, hgiven, rfl⟩ := hnames
  obtain ⟨own, hown, hi⟩ := List.mem_flatten.mp hi
  obtain ⟨a, ha, hgives⟩ := exists_gives_of_mem hgiven hown
  cases hgives with
  | other => cases hi
  | list _ hform hitems =>
    obtain ⟨htoken, hreserved⟩ := hitems.mem hi
    exact h.attributes a ha _ hform i htoken hreserved

/-- What a well-formed item declares is well-formed. -/
theorem WellFormed.declaration (h : item.WellFormed) {d : Declaration}
    (hd : Declaration.ofItem item = .ok d) : d.WellFormed := by
  have hdeclares := declares_iff.mp hd
  obtain ⟨names, hnames, hmodule⟩ := hdeclares.module
  have hvariants : ∀ w ∈ d.registry.variants, itemVariant w ∈ item.variants := fun w hw => by
    rw [hdeclares.variants]
    exact List.mem_map_of_mem hw
  refine ⟨?_, ?_, ?_, fun w hw => ?_, fun w hw type htype => ?_⟩
  · rw [hdeclares.visibility]
    exact h.visibility
  · rw [hdeclares.ident]
    exact h.ident
  · rcases hmodule with hlast | ⟨-, hname⟩
    · exact h.legal_of_givesNames hnames (List.mem_of_getLast? hlast)
    · exact Ident.legal_of_nameOfSpelling? hname
  · exact h.names (itemVariant w) (hvariants w hw)
  · refine h.types (itemVariant w) (hvariants w hw) [type] ?_ type List.mem_cons_self
    simp [itemVariant, Option.mem_def.mp htype]

end Item

end TagDispatch.Derive
