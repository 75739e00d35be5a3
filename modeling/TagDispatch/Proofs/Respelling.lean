import TagDispatch.Proofs.FirstFault
import TagDispatch.Proofs.RawNames
import TagDispatch.Proofs.Refinement

/-!
# Items that are spelled in two ways

A name is the same raw and plain, so two items that differ in nothing but the spelling of their
names are one item. Its spelling shows nevertheless. A variant is compared with the enum of tags
by its spelling, the module takes its name from the spelling of the enum, and the names of the enum
and of the tags are spellings, while a tag is shown without the sign of a raw name.
-/

namespace TagDispatch.Derive

/-! ## Spellings of an item -/

/-- The variant with its name spelled in another way. -/
structure ItemVariant.Respells (v v' : ItemVariant) : Prop where
  text : v'.ident.text = v.ident.text
  fields : v'.fields = v.fields

/-- The item with its names spelled in another way. -/
structure Item.Respells (item item' : Item) : Prop where
  kind : item'.kind = item.kind
  ident : item'.ident.text = item.ident.text
  visibility : item'.visibility = item.visibility
  generic : item'.generic = item.generic
  attributes : item'.attributes = item.attributes
  variants : List.Forall₂ ItemVariant.Respells item.variants item'.variants

/-- All names of the item are legal as they are spelled. -/
structure Item.Named (item : Item) : Prop where
  ident : item.ident.Legal
  variants : ∀ v ∈ item.variants, v.ident.Legal

/-- The kind of an error: what it says without the name that it cites. -/
def DeriveError.kind : DeriveError → DeriveError
  | .moduleName _ => .moduleName ""
  | e => e

/-- The kind of the error that an item is refused with, if it is refused. -/
def Item.refusal? (item : Item) : Option DeriveError :=
  match Declaration.ofItem item with
  | .ok _ => none
  | .error e => some e.kind

/-- A variant that is spelled `Tag` comes before every other fault of a variant. -/
def Item.MeetsTag (item : Item) : Prop :=
  ∃ before v after, item.variants = before ++ v :: after ∧ (∀ w ∈ before, w.Allowed) ∧
    v.ident = ⟨"Tag", false⟩

/-! ## Refusals -/

section Variants

variable {v v' : ItemVariant} {vs vs' : List ItemVariant} {e : DeriveError}

theorem ItemVariant.fault_tagVariant_iff : v.Fault .tagVariant ↔ v.ident = ⟨"Tag", false⟩ := by
  rw [← spelling_eq_tag_iff]
  constructor
  · rintro ⟨h⟩
    exact h
  · exact .tag

/-- The name of a variant matters to its fault only if it is spelled `Tag`. -/
theorem variantOf_of_ne (h : v.ident ≠ ⟨"Tag", false⟩) :
    variantOf v = (fieldOf v.fields).map fun field => ⟨v.ident, field⟩ := if_neg h

/-- Where no variant is spelled `Tag` the faults of variants are those of their fields. -/
theorem variantsOf_error_iff_of_respells (h : List.Forall₂ ItemVariant.Respells vs vs')
    (htag : variantsOf vs ≠ .error .tagVariant) (htag' : variantsOf vs' ≠ .error .tagVariant) :
    variantsOf vs' = .error e ↔ variantsOf vs = .error e := by
  induction h with
  | nil => exact Iff.rfl
  | @cons v v' rest rest' hv _ ih =>
    have hne : ∀ {v : ItemVariant} {rest : List ItemVariant},
        variantsOf (v :: rest) ≠ .error .tagVariant → v.ident ≠ ⟨"Tag", false⟩ := by
      intro v rest htag hv
      exact htag (by rw [variantsOf_cons, variantOf, if_pos hv]; rfl)
    -- neither is spelled `Tag`, so both variants have the fault of their fields or none
    have hv₁ := variantOf_of_ne (hne htag)
    have hv₂ := variantOf_of_ne (hne htag')
    simp only [variantsOf_cons, hv₁, hv₂, hv.fields] at htag htag' ⊢
    cases hfield : fieldOf v.fields with
    | error e' => exact Iff.rfl
    | ok field =>
      rw [hfield] at htag htag'
      have herror : ∀ {ws : Except DeriveError (List (Variant Words))} {w : Variant Words}
          {e : DeriveError}, ws.map (w :: ·) = .error e ↔ ws = .error e := map_eq_error_iff
      exact herror.trans ((ih (mt herror.mpr htag) (mt herror.mpr htag')).trans herror.symm)

/-- A variant is never refused for the name of the module. -/
theorem kind_of_variantsOf (h : variantsOf vs = .error e) :
    e.kind = e ∧ e ≠ .moduleName "" := by
  obtain ⟨_, v, _, -, -, hfault⟩ := variantsOf_eq_error_iff.mp h
  cases hfault <;> exact ⟨rfl, by simp⟩

end Variants

namespace Item

variable {item item' : Item} {names : List Ident} {e : DeriveError}

/-- The module is named, by an attribute or by the enum. -/
def Settled (item : Item) (names : List Ident) : Prop := ∃ module, item.HasModule names module

theorem meetsTag_iff : item.MeetsTag ↔ variantsOf item.variants = .error .tagVariant := by
  simp only [MeetsTag, variantsOf_eq_error_iff, ItemVariant.fault_tagVariant_iff]

theorem refusal?_of_firstFault (h : item.FirstFault e) : item.refusal? = some e.kind := by
  rw [refusal?, firstFault_iff.mpr h]

theorem refusal?_of_not_settled (hshaped : item.Shaped) (hnames : item.GivesNames names)
    (h : ¬item.Settled names) : item.refusal? = some (.moduleName "") := by
  rw [Settled, exists_hasModule_iff, not_or, not_not] at h
  obtain ⟨rfl, hname⟩ := h
  exact refusal?_of_firstFault (.moduleName hshaped hnames hname)

/-- Behind the name of the module an item is refused for its variants. -/
theorem refusal?_of_settled (hshaped : item.Shaped) (hnames : item.GivesNames names)
    (h : item.Settled names) :
    item.refusal? = some e ↔ variantsOf item.variants = .error e := by
  obtain ⟨module, hmodule⟩ := h
  cases hvariants : variantsOf item.variants with
  | ok ws =>
    have hallowed := exists_variantsOf_iff.mp ⟨ws, hvariants⟩
    obtain ⟨d, hd⟩ := exists_declares_iff.mpr ⟨hshaped, ⟨names, hnames, module, hmodule⟩, hallowed⟩
    rw [refusal?, declares_iff.mpr hd]
    simp
  | error e' =>
    obtain ⟨before, v, after, heq, hbefore, hfault⟩ := variantsOf_eq_error_iff.mp hvariants
    rw [refusal?_of_firstFault (.variant hshaped hnames hmodule heq hbefore hfault),
      (kind_of_variantsOf hvariants).1]
    simp

namespace Respells

variable (h : item.Respells item')

include h

theorem variants_eq_nil_iff : item'.variants = [] ↔ item.variants = [] := by
  rw [← List.length_eq_zero_iff, ← List.length_eq_zero_iff, h.variants.length_eq]

theorem shaped (hshaped : item.Shaped) : item'.Shaped where
  enum := h.kind.trans hshaped.enum
  plain := h.generic.trans hshaped.plain
  inhabited := mt h.variants_eq_nil_iff.mp hshaped.inhabited

theorem givesNames (hnames : item.GivesNames names) : item'.GivesNames names := by
  rwa [GivesNames, h.attributes]

/-- Up to the name of the module no spelling is looked at. -/
theorem firstFault (hearly : ¬(item.Shaped ∧ ∃ names, item.GivesNames names))
    (hfault : item.FirstFault e) : item'.FirstFault e := by
  cases hfault with
  | notEnum hkind => exact .notEnum (by rwa [h.kind])
  | generic henum hgeneric => exact .generic (h.kind.trans henum) (h.generic.trans hgeneric)
  | noVariants henum hplain hnone =>
    exact .noVariants (h.kind.trans henum) (h.generic.trans hplain)
      (h.variants_eq_nil_iff.mpr hnone)
  | inAttribute hshaped hattributes hbefore hfault =>
    exact .inAttribute (h.shaped hshaped) (h.attributes.trans hattributes) hbefore hfault
  | moduleName hshaped hnames => exact absurd ⟨hshaped, _, hnames⟩ hearly
  | variant hshaped hnames => exact absurd ⟨hshaped, _, hnames⟩ hearly

theorem refusal?_of_early (hearly : ¬(item.Shaped ∧ ∃ names, item.GivesNames names)) :
    item'.refusal? = item.refusal? := by
  cases hitem : Declaration.ofItem item with
  | ok d =>
    obtain ⟨hshaped, ⟨names, hnames, -⟩, -⟩ := exists_declares_iff.mp ⟨d, declares_iff.mp hitem⟩
    exact absurd ⟨hshaped, names, hnames⟩ hearly
  | error e =>
    have hfault := firstFault_iff.mp hitem
    rw [refusal?_of_firstFault hfault, refusal?_of_firstFault (h.firstFault hearly hfault)]

/-- Once the module is named, an item is refused alike if it meets `Tag` alike. -/
theorem refusal?_of_settled (hshaped : item.Shaped) (hnames : item.GivesNames names)
    (hsettled : item.Settled names) (hsettled' : item'.Settled names) :
    item'.refusal? = item.refusal? ↔ (item'.MeetsTag ↔ item.MeetsTag) := by
  have hitem : ∀ {e}, item.refusal? = some e ↔ variantsOf item.variants = .error e :=
    Item.refusal?_of_settled hshaped hnames hsettled
  have hitem' : ∀ {e}, item'.refusal? = some e ↔ variantsOf item'.variants = .error e :=
    Item.refusal?_of_settled (h.shaped hshaped) (h.givesNames hnames) hsettled'
  rw [meetsTag_iff, meetsTag_iff]
  constructor
  · intro heq
    rw [← hitem, ← hitem', heq]
  · intro htag
    apply Option.ext
    intro e
    rw [hitem, hitem']
    -- either `Tag` is met in both, or only fields are at fault
    by_cases hmeets : variantsOf item.variants = .error .tagVariant
    · rw [hmeets, htag.mpr hmeets]
    · exact variantsOf_error_iff_of_respells h.variants hmeets (mt htag.mp hmeets)

theorem refusal?_of_readable (hshaped : item.Shaped) (hnames : item.GivesNames names) :
    item'.refusal? = item.refusal? ↔ (item'.Settled names ↔ item.Settled names) ∧
      (item.Settled names → (item'.MeetsTag ↔ item.MeetsTag)) := by
  -- a missing name of the module is no fault of a variant
  have hmixed : ∀ {item item' : Item}, item.Shaped → item.GivesNames names → item.Settled names →
      item'.Shaped → item'.GivesNames names → ¬item'.Settled names →
      item'.refusal? ≠ item.refusal? := by
    intro item item' hshaped hnames hsettled hshaped' hnames' hunsettled heq
    rw [refusal?_of_not_settled hshaped' hnames' hunsettled, eq_comm,
      Item.refusal?_of_settled hshaped hnames hsettled] at heq
    exact (kind_of_variantsOf heq).2 rfl
  have hshaped' := h.shaped hshaped
  have hnames' := h.givesNames hnames
  by_cases hsettled : item.Settled names <;> by_cases hsettled' : item'.Settled names
  · simp [hsettled, hsettled', h.refusal?_of_settled hshaped hnames hsettled hsettled']
  · simp [hsettled, hsettled', hmixed hshaped hnames hsettled hshaped' hnames' hsettled']
  · simp [hsettled, hsettled', (hmixed hshaped' hnames' hsettled' hshaped hnames hsettled).symm]
  · simp [hsettled, hsettled', refusal?_of_not_settled hshaped hnames hsettled,
      refusal?_of_not_settled hshaped' hnames' hsettled']

end Respells

end Item

/-! ## Names of modules -/

namespace Item

variable {item item' : Item} {names names' : List Ident} {d d' : Declaration}

theorem GivesNames.unique (hnames : item.GivesNames names) (hnames' : item.GivesNames names') :
    names = names' := by
  have hread := givenNames_eq_ok_iff.mpr hnames
  rw [givenNames_eq_ok_iff.mpr hnames'] at hread
  exact (Except.ok.inj hread).symm

theorem hasModule_nil_iff (hitem : item.Named) {module : Ident} :
    item.HasModule [] module ↔ item.ident.snakeCase = module ∧ item.ident.snakeCase.Legal := by
  simp [HasModule, Ident.nameOfSpelling?_snakeCase hitem.ident.isIdentText]

theorem settled_iff (hitem : item.Named) :
    item.Settled names ↔ names ≠ [] ∨ item.ident.snakeCase.Legal := by
  have hname : IsName (Text.snakeCase item.ident.spelling) ↔ item.ident.snakeCase.Legal := by
    simp [IsName, Ident.nameOfSpelling?_snakeCase hitem.ident.isIdentText]
  rw [Settled, exists_hasModule_iff, hname]

namespace Respells

variable (h : item.Respells item')

include h

/-- The name of the module shows the spelling of the enum only if the enum names the module and
begins with an underscore. -/
theorem module_text_eq_iff (hitem : item.Named) (hitem' : item'.Named) (hd : item.Declares d)
    (hd' : item'.Declares d') :
    d'.module.text = d.module.text ↔
      (item.GivesNames [] → item'.ident.raw = item.ident.raw ∨
        ¬Text.BeginsUnderscore item.ident.text) := by
  obtain ⟨names, hnames, hmodule⟩ := hd.module
  obtain ⟨names', hnames', hmodule'⟩ := hd'.module
  obtain rfl := (h.givesNames hnames).unique hnames'
  by_cases hnone : names = []
  · subst hnone
    obtain ⟨hname, hmoduleLegal⟩ := (hasModule_nil_iff hitem).mp hmodule
    obtain ⟨hname', hmoduleLegal'⟩ := (hasModule_nil_iff hitem').mp hmodule'
    rw [← hname, ← hname', Ident.snakeCase_text_eq_iff h.ident hmoduleLegal' hmoduleLegal, h.ident]
    simp [hnames]
  · have hgiven : ¬item.GivesNames [] := fun hnil => hnone (hnames.unique hnil)
    have hlast := hmodule.resolve_right fun hnil => hnone hnil.1
    have hlast' := hmodule'.resolve_right fun hnil => hnone hnil.1
    rw [hlast] at hlast'
    simp [hgiven, Option.some.inj hlast']

end Respells

end Item

/-! ## Names of enums and tags -/

/-- The spellings of a name are alike only if they are both raw or both plain. -/
theorem spelling_eq_iff {i j : Ident} (htext : i.text = j.text) :
    i.spelling = j.spelling ↔ i.raw = j.raw := by
  obtain ⟨text, raw⟩ := i
  obtain ⟨text', raw'⟩ := j
  obtain rfl : text = text' := htext
  have hne : "r#" ++ text ≠ text := by
    intro heq
    have hlength := congrArg String.length heq
    simp at hlength
  cases raw <;> cases raw' <;> simp [Ident.spelling, hne, hne.symm]

theorem spelling_eq_text_iff {i : Ident} : i.spelling = i.text ↔ i.raw = false :=
  spelling_eq_iff (j := ⟨i.text, false⟩) rfl

/-- The name that an enum gives to itself. -/
def Scope.name? {X : Type} (s : Scope) : Option (Value X) := s.const? "Registry" none s.enum "NAME"

namespace Declaration

variable {item item' : Item} {d d' : Declaration}

theorem Describes.name?_eq {X : Type} (h : d.Describes item) :
    ((d.scope item).name? : Option (Value X)) = some (.text d.registry.name) := by
  rw [Scope.name?, const?_eq h.implementation?_registry rfl]
  rfl

theorem compact_dump (t : d.registry.Tag) : (dump t).compact = t.variant.ident.text := by
  show (Dump.atom t.variant.ident.text).compact = _
  rw [Dump.compact]

/-- A tag is named as it is shown unless its variant is written raw. -/
theorem name_eq_shown_iff (t : d.registry.Tag) :
    Tag.name t = (dump t).compact ↔ t.variant.ident.raw = false := by
  rw [compact_dump]
  exact spelling_eq_text_iff

theorem legal_of_tag (hitem : item.Named) (hd : item.Declares d) (t : d.registry.Tag) :
    t.variant.ident.Legal := by
  have hmem : itemVariant t.variant ∈ item.variants := by
    rw [hd.variants]
    exact List.mem_map_of_mem (variant_mem t)
  have hlegal := hitem.variants _ hmem
  rwa [itemVariant] at hlegal

/-- A keyword names a variant only if it is written raw. -/
theorem raw_of_keyword (hitem : item.Named) (hd : item.Declares d) (t : d.registry.Tag)
    (hkeyword : t.variant.ident.text ∈ keywords) : t.variant.ident.raw = true := by
  have hreserved := (Ident.legal_iff.mp (legal_of_tag hitem hd t)).2.1
  simpa [isReserved, hkeyword] using hreserved

/-- What two spellings of an item declare, and where they show in it. -/
structure Respelled (d d' : Declaration) : Prop where
  /-- The enum has one name, whose spelling shows. -/
  name : (identOfSpelling d'.registry.name).text = (identOfSpelling d.registry.name).text ∧
    (d'.registry.name = d.registry.name ↔ d'.registry.ident.raw = d.registry.ident.raw)
  length_eq : d'.registry.variants.length = d.registry.variants.length
  /-- A tag is shown in one way and has one name, whose spelling shows. -/
  tag : ∀ (t : d.registry.Tag) (t' : d'.registry.Tag), t'.place.val = t.place.val →
    (dump t').compact = (dump t).compact ∧
    (identOfSpelling (Tag.name t')).text = (identOfSpelling (Tag.name t)).text ∧
    (Tag.name t' = Tag.name t ↔ t'.variant.ident.raw = t.variant.ident.raw)

theorem respelled_of_declares (h : item.Respells item') (hitem : item.Named)
    (hd : item.Declares d) (hd' : item'.Declares d') : d.Respelled d' := by
  -- the text of a spelling is the name itself, whatever its spelling
  have hname : ∀ {i j : Ident}, i.Legal → j.text = i.text →
      (identOfSpelling j.spelling).text = (identOfSpelling i.spelling).text ∧
        (j.spelling = i.spelling ↔ j.raw = i.raw) := by
    intro i j hi htext
    have hsharp := sharp_notMem hi.isIdentText
    rw [Ident.identOfSpelling_spelling hsharp, Ident.identOfSpelling_spelling (by rwa [htext])]
    exact ⟨htext, spelling_eq_iff htext⟩
  have hvariants : List.Forall₂ (fun w w' => (itemVariant w).Respells (itemVariant w'))
      d.registry.variants d'.registry.variants := by
    have hitems := h.variants
    rwa [hd.variants, hd'.variants, List.forall₂_map_left_iff, List.forall₂_map_right_iff] at hitems
  refine ⟨?_, hvariants.length_eq.symm, fun t t' hplace => ?_⟩
  · have hlegal : d.registry.ident.Legal := hd.ident ▸ hitem.ident
    exact hname hlegal (by rw [hd.ident, hd'.ident, h.ident])
  · have htext : t'.variant.ident.text = t.variant.ident.text := by
      obtain ⟨⟨place, hlt⟩⟩ := t
      obtain ⟨⟨place', hlt'⟩⟩ := t'
      obtain rfl : place' = place := hplace
      exact (hvariants.get hlt hlt').text
    rw [compact_dump, compact_dump]
    exact ⟨htext, hname (legal_of_tag hitem hd t) htext⟩

/-- **Raw and plain names.** Take two spellings of an item with legal names. An item is refused
alike in both unless its shape and its attributes are as they should be and one of two things
happens: no attribute names the module, and the enum can do so in one spelling only; or a variant
spelled `Tag` comes first among the faults of the variants in one spelling only. If both are
accepted, the module has one name unless the enum names it and begins with an underscore, and the
enum and its tags have one name each and tags are shown in one way; but the texts of these names are
the same only if the spellings are. The emitted code gives these names. So a tag is named as it is
shown exactly if its variant is written plainly, which no keyword can be. -/
theorem ofItem_respelled {X : Type} (h : item.Respells item') (hitem : item.Named)
    (hitem' : item'.Named) (hnames : (item.variants.map fun v => v.ident.text).Nodup) :
    (item'.refusal? = item.refusal? ↔ (item.Shaped → ∀ names, item.GivesNames names →
      (names = [] → item'.ident.raw = item.ident.raw ∨
        ((Ident.mk item.ident.text true).snakeCase.Legal →
          (Ident.mk item.ident.text false).snakeCase.Legal)) ∧
      (names ≠ [] ∨ item.ident.snakeCase.Legal → (item'.MeetsTag ↔ item.MeetsTag)))) ∧
    (∀ d d', Declaration.ofItem item = .ok d → Declaration.ofItem item' = .ok d' →
      d.Respelled d' ∧
      (d'.module.text = d.module.text ↔ (item.GivesNames [] →
        item'.ident.raw = item.ident.raw ∨ ¬Text.BeginsUnderscore item.ident.text))) ∧
    ∀ d, Declaration.ofItem item = .ok d →
      ((d.scope item).name? : Option (Value X)) = some (.text d.registry.name) ∧
      ∀ t : d.registry.Tag,
        (d.scope item).nameOf? (encodeTag t : Value X) = some (.text (Tag.name t)) ∧
        (Tag.name t = (dump t).compact ↔ t.variant.ident.raw = false) ∧
        (t.variant.ident.text ∈ keywords → t.variant.ident.raw = true) := by
  refine ⟨?_, fun d d' hd hd' => ?_, fun d hd => ?_⟩
  · by_cases hread : item.Shaped ∧ ∃ names, item.GivesNames names
    · obtain ⟨hshaped, names, hgiven⟩ := hread
      rw [h.refusal?_of_readable hshaped hgiven, Item.settled_iff hitem, Item.settled_iff hitem']
      -- the attributes give one list of names only
      have honly : ∀ {P : List Ident → Prop},
          (∀ names, item.GivesNames names → P names) ↔ P names :=
        ⟨fun hall => hall names hgiven, fun hP names' hnames' => hgiven.unique hnames' ▸ hP⟩
      rw [forall_prop_of_true hshaped, honly, ← Ident.legal_snakeCase_iff h.ident]
      by_cases hnone : names = [] <;> simp [hnone]
    · refine iff_of_true (h.refusal?_of_early hread) fun hshaped names hgiven => ?_
      exact absurd ⟨hshaped, names, hgiven⟩ hread
  · have hdeclares := Item.declares_iff.mp hd
    have hdeclares' := Item.declares_iff.mp hd'
    exact ⟨respelled_of_declares h hitem hdeclares hdeclares',
      h.module_text_eq_iff hitem hitem' hdeclares hdeclares'⟩
  · have hdescribes := describes_of_ofItem hd hnames
    exact ⟨hdescribes.name?_eq, fun t => ⟨hdescribes.nameOf?_encode t, name_eq_shown_iff t,
      raw_of_keyword hitem (Item.declares_iff.mp hd) t⟩⟩

end Declaration

/-! ## Steps -/

namespace Steps

/-- An enum with a variant whose name is a keyword; the other names are spelled in either way. -/
def item (raw : Bool) : Item where
  kind := .enum
  ident := ⟨"Step", raw⟩
  visibility := []
  generic := false
  attributes := []
  variants := [⟨⟨"Stay", raw⟩, .unit⟩, ⟨⟨"type", true⟩, .unnamed [["i64"]]⟩]

def declaration (raw : Bool) : Declaration where
  visibility := []
  module := ⟨"step", raw⟩
  registry := ⟨⟨"Step", raw⟩, [⟨⟨"Stay", raw⟩, none⟩, ⟨⟨"type", true⟩, some ["i64"]⟩]⟩

theorem ofItem_item (raw : Bool) : Declaration.ofItem (item raw) = .ok (declaration raw) := by
  cases raw <;> decide +kernel

theorem named_item (raw : Bool) : (item raw).Named where
  ident := by cases raw <;> decide
  variants := by
    simp only [item, List.forall_mem_cons]
    exact ⟨by cases raw <;> decide, by decide, by simp⟩

theorem respells_item (raw raw' : Bool) : (item raw).Respells (item raw') :=
  ⟨rfl, rfl, rfl, rfl, rfl, .cons ⟨rfl, rfl⟩ (.cons ⟨rfl, rfl⟩ .nil)⟩

theorem not_meetsTag_item (raw : Bool) : ¬(item raw).MeetsTag := by
  rw [Item.meetsTag_iff]
  cases raw <;> decide +kernel

end Steps

namespace Clashes

variable {ident ident' variant variant' : Ident}

theorem respells_item (hident : ident'.text = ident.text)
    (hvariant : variant'.text = variant.text) :
    (item ident variant).Respells (item ident' variant') :=
  ⟨rfl, hident, rfl, rfl, rfl, .cons ⟨hvariant, rfl⟩ .nil⟩

theorem named_item (hident : ident.Legal) (hvariant : variant.Legal) :
    (item ident variant).Named where
  ident := hident
  variants := List.forall_mem_singleton.mpr hvariant

end Clashes

/-- Spellings of one enum are treated in two ways, and a tag is named in another way than it is
shown. -/
theorem spellings_told_apart :
    ((Clashes.item ⟨"E", false⟩ ⟨"Tag", false⟩).Respells (Clashes.item ⟨"E", false⟩ ⟨"Tag", true⟩) ∧
      (Clashes.item ⟨"E", false⟩ ⟨"Tag", false⟩).Named ∧
      (Clashes.item ⟨"E", false⟩ ⟨"Tag", true⟩).Named ∧
      (Clashes.item ⟨"E", false⟩ ⟨"Tag", false⟩).refusal? = some .tagVariant ∧
      (Clashes.item ⟨"E", false⟩ ⟨"Tag", true⟩).refusal? = none) ∧
    ((Clashes.item ⟨"Type", false⟩ ⟨"A", false⟩).Respells
        (Clashes.item ⟨"Type", true⟩ ⟨"A", false⟩) ∧
      (Clashes.item ⟨"Type", false⟩ ⟨"A", false⟩).Named ∧
      (Clashes.item ⟨"Type", true⟩ ⟨"A", false⟩).Named ∧
      (Clashes.item ⟨"Type", false⟩ ⟨"A", false⟩).refusal? = some (.moduleName "") ∧
      (Clashes.item ⟨"Type", true⟩ ⟨"A", false⟩).refusal? = none) ∧
    Declaration.ofItem (Steps.item false) = .ok (Steps.declaration false) ∧
      (Steps.item false).Named ∧
      ∃ t : (Steps.declaration false).registry.Tag,
        Tag.name t = "r#type" ∧ (dump t).compact = "type" := by
  refine ⟨⟨Clashes.respells_item rfl rfl, ?_, ?_, ?_, ?_⟩,
    ⟨Clashes.respells_item rfl rfl, ?_, ?_, ?_, ?_⟩, Steps.ofItem_item false,
    Steps.named_item false, ⟨1, by decide⟩, by decide, Declaration.compact_dump _⟩
  · exact Clashes.named_item (by decide) (by decide)
  · exact Clashes.named_item (by decide) (by decide)
  · decide +kernel
  · decide +kernel
  · exact Clashes.named_item (by decide) (by decide)
  · exact Clashes.named_item (by decide) (by decide)
  · decide +kernel
  · decide +kernel

theorem steps_respelled :
    (Steps.item true).refusal? = (Steps.item false).refusal? ∧
      (Steps.declaration true).module.text = (Steps.declaration false).module.text ∧
      (Steps.declaration true).registry.name ≠ (Steps.declaration false).registry.name := by
  obtain ⟨hrefused, haccepted, -⟩ := Declaration.ofItem_respelled (X := Unit)
    (Steps.respells_item false true) (Steps.named_item false) (Steps.named_item true) (by decide)
  obtain ⟨hrespelled, hmodule⟩ :=
    haccepted _ _ (Steps.ofItem_item false) (Steps.ofItem_item true)
  refine ⟨hrefused.mpr fun _ names _ => ⟨fun _ => .inr fun _ => ?_, fun _ => ?_⟩,
    hmodule.mpr fun _ => .inr ?_, mt hrespelled.name.2.mp (by decide)⟩
  · decide +kernel
  · exact iff_of_false (Steps.not_meetsTag_item true) (Steps.not_meetsTag_item false)
  · decide +kernel

end TagDispatch.Derive
