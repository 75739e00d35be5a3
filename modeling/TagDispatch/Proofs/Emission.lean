import Mathlib.Data.List.Nodup
import TagDispatch.Proofs.Acceptance
import TagDispatch.Proofs.Evaluation

/-!
# What an expansion means

The values of the functions and constants that `Declaration.expand` emits, next to the enum that the
declaration was read from. Everything is found by name, so all of it rests on names being distinct:
then no trait is implemented twice for a type, and the paths of variants and tags name them.
-/

namespace TagDispatch.Derive

/-- In a list with distinct keys an element is found by its key. -/
theorem find?_key_eq {α κ : Type} [DecidableEq κ] {key : α → κ} {l : List α}
    (hkeys : (l.map key).Nodup) {a : α} (ha : a ∈ l) :
    l.find? (fun b => key b = key a) = some a := by
  cases hfind : l.find? fun b => key b = key a with
  | none =>
    have hnone := List.find?_eq_none.mp hfind a ha
    simp at hnone
  | some b =>
    have hkey : key b = key a := by simpa using List.find?_some hfind
    rw [List.inj_on_of_nodup_map hkeys (List.mem_of_find?_eq_some hfind) ha hkey]

theorem mapM_eq_some_map {α β : Type} {f : α → Option β} {g : α → β} {l : List α}
    (h : ∀ a ∈ l, f a = some (g a)) : l.mapM f = some (l.map g) := by
  induction l with
  | nil => rfl
  | cons a rest ih =>
    have hrest := ih fun b hb => h b (List.mem_cons_of_mem a hb)
    simp [h a List.mem_cons_self, hrest]

@[simp]
theorem libraryPath_key_inj {a b : String} :
    (libraryPath a).key = (libraryPath b).key ↔ a = b := by
  simp [libraryPath, plainPath, Path.key]

namespace Declaration

variable {d : Declaration}

/-! ## Implementations -/

@[simp]
theorem markerPath_key_inj {i j : Ident} :
    (d.markerPath i).key = (d.markerPath j).key ↔ i.text = j.text := by
  simp [markerPath, Path.key]

theorem tagImpl_key : d.tagImpl.key = ((libraryPath "Tag").key, none, d.tagEnum.key) := rfl

theorem matchableImpl_key :
    d.matchableImpl.key = ((libraryPath "Matchable").key, none, d.self.key) :=
  rfl

theorem registryImpl_key :
    d.registryImpl.key = ((libraryPath "Registry").key, none, d.self.key) :=
  rfl

theorem patternImpl_key (w : Variant Words) :
    (d.patternImpl w).key =
      ((libraryPath "Pattern").key, some d.self.key, (d.markerPath w.ident).key) :=
  rfl

theorem variantImpl_key (w : Variant Words) :
    (d.variantImpl w).key =
      ((libraryPath "Variant").key, some d.self.key, (d.markerPath w.ident).key) :=
  rfl

theorem expand_implementations :
    d.expand.implementations = [d.tagImpl, d.matchableImpl, d.registryImpl] ++
      d.registry.variants.flatMap fun w => [d.patternImpl w, d.variantImpl w] :=
  rfl

theorem expand_tags :
    d.expand.tags = d.idents.map fun i => ⟨"The `" ++ i.spelling ++ "` tag.", i⟩ :=
  rfl

section Coherence

variable (hnames : (d.registry.variants.map fun w => w.ident.text).Nodup)

include hnames

/-- No trait is implemented twice for a type. -/
theorem implementation_keys_nodup : (d.expand.implementations.map Implementation.key).Nodup := by
  rw [expand_implementations, List.map_append, List.nodup_append, List.map_flatMap]
  refine ⟨?_, ?_, ?_⟩
  · simp only [List.map_cons, List.map_nil, tagImpl_key, matchableImpl_key, registryImpl_key]
    simp
  · rw [List.nodup_flatMap]
    refine ⟨fun w _ => ?_, ?_⟩
    · simp only [List.map_cons, List.map_nil, patternImpl_key, variantImpl_key]
      simp
    · rw [List.nodup_iff_pairwise_ne, List.pairwise_map] at hnames
      refine hnames.imp fun {w w'} hne => ?_
      simp only [Function.onFun, List.map_cons, List.map_nil, patternImpl_key, variantImpl_key]
      simp [hne.symm]
  · -- only the markers implement traits with an argument
    intro k hk k' hk'
    have hnone : k.2.1 = none := by
      simp only [List.map_cons, List.map_nil, List.mem_cons, List.not_mem_nil, or_false] at hk
      rcases hk with rfl | rfl | rfl <;> rfl
    have hsome : k'.2.1 = some d.self.key := by
      obtain ⟨w, -, hw⟩ := List.mem_flatMap.mp hk'
      simp only [List.map_cons, List.map_nil, List.mem_cons, List.not_mem_nil, or_false] at hw
      rcases hw with rfl | rfl <;> rfl
    rintro rfl
    rw [hnone] at hsome
    cases hsome

theorem implementation?_eq {i : Implementation} (hi : i ∈ d.expand.implementations) {trait : String}
    {argument : Option Path} {target : Path}
    (hkey : i.key = ((libraryPath trait).key, argument.map Path.key, target.key)) :
    d.expand.implementation? trait argument target = some i := by
  unfold Emitted.implementation?
  rw [← hkey]
  exact find?_key_eq (implementation_keys_nodup hnames) hi

end Coherence

/-! ## Names -/

/-- The enum of an item with the code of a declaration next to it. -/
abbrev scope (d : Declaration) (item : Item) : Scope := ⟨item, d.expand⟩

/-- An item whose enum is that of the declaration and whose variants have distinct names. -/
structure Describes (d : Declaration) (item : Item) : Prop where
  ident : d.registry.ident = item.ident
  variants : item.variants = d.registry.variants.map itemVariant
  names : (item.variants.map fun v => v.ident.text).Nodup

/-- An accepted item is described by its declaration. -/
theorem describes_of_ofItem {item : Item} (hd : Declaration.ofItem item = .ok d)
    (hnames : (item.variants.map fun v => v.ident.text).Nodup) : d.Describes item := by
  obtain ⟨-, -, -, hvariants, -, hident⟩ := ofItem_eq_ok_iff.mp hd
  exact ⟨hident, hvariants, hnames⟩

variable {item : Item} {w w' : Variant Words}

theorem resolve?_tagPath {i : Ident} (hi : i ∈ d.idents) :
    (d.scope item).resolve? (d.tagPath i) = some (.tag i.text) := by
  have htag : i.text ∈ d.expand.tags.map (·.ident.text) := by
    rw [expand_tags, List.map_map]
    exact List.mem_map_of_mem hi
  have hmodule : d.module.text = d.expand.module.text := rfl
  simp [Scope.resolve?, Path.key, tagPath, htag, hmodule]

theorem constant?_tagPath {i : Ident} (hi : i ∈ d.idents) :
    (d.scope item).constant? (d.tagPath i) = some (.tag i.text) := by
  rw [Scope.constant?, resolve?_tagPath hi]
  rfl

theorem hasField_variant : (Constructor.variant (itemVariant w)).hasField = w.field.isSome := by
  cases hfield : w.field <;> simp [Constructor.hasField, itemVariant, hfield]

namespace Describes

variable (h : d.Describes item)

include h

theorem mem_iff {v : ItemVariant} :
    v ∈ item.variants ↔ ∃ w ∈ d.registry.variants, itemVariant w = v := by
  rw [h.variants, List.mem_map]

theorem names_nodup : (d.registry.variants.map fun w => w.ident.text).Nodup := by
  have hnames := h.names
  rw [h.variants, List.map_map] at hnames
  exact hnames

theorem text_inj (hw : w ∈ d.registry.variants) (hw' : w' ∈ d.registry.variants) :
    w.ident.text = w'.ident.text ↔ w = w' := by
  constructor
  · exact List.inj_on_of_nodup_map h.names_nodup hw hw'
  · rintro rfl
    rfl

theorem ident_inj (hw : w ∈ d.registry.variants) (hw' : w' ∈ d.registry.variants) :
    w.ident = w'.ident ↔ w = w' := by
  constructor
  · intro heq
    exact (h.text_inj hw hw').mp (congrArg Ident.text heq)
  · rintro rfl
    rfl

theorem enum_eq : (d.scope item).enum = d.self := by
  rw [Scope.enum, self, h.ident]

theorem variant?_eq (hw : w ∈ d.registry.variants) :
    item.variant? w.ident.text = some (itemVariant w) :=
  find?_key_eq h.names (h.mem_iff.mpr ⟨w, hw, rfl⟩)

theorem resolve?_variantPath (hw : w ∈ d.registry.variants) :
    (d.scope item).resolve? (d.variantPath w.ident) = some (.variant (itemVariant w)) := by
  simp [Scope.resolve?, Path.key, variantPath, h.ident, h.variant?_eq hw]

theorem constant?_variantPath (hw : w ∈ d.registry.variants) (hfield : w.field = none) :
    (d.scope item).constant? (d.variantPath w.ident) = some (.variant (itemVariant w)) := by
  simp [Scope.constant?, h.resolve?_variantPath hw, hasField_variant, hfield]

theorem function?_variantPath (hw : w ∈ d.registry.variants) {field : Words}
    (hfield : w.field = some field) :
    (d.scope item).function? (d.variantPath w.ident) = some (.variant (itemVariant w)) := by
  rw [Scope.function?, h.resolve?_variantPath hw, Option.filter_some, hasField_variant, hfield]
  rfl

end Describes

/-! ## Patterns -/

section Patterns

variable {X : Type} {x : Value X}

/-- The value that a variant makes of a payload. -/
def formed (w : Variant Words) (x : Value X) : Value X :=
  match w.field with
  | none => .constant (.variant (itemVariant w))
  | some _ => .applied (.variant (itemVariant w)) x

theorem constructor?_formed : (formed w x).constructor? = some (.variant (itemVariant w)) := by
  unfold formed
  cases w.field <;> rfl

theorem argument?_formed {field : Words} (hfield : w'.field = some field) :
    (formed w x).argument? (.variant (itemVariant w')) = if w' = w then some x else none := by
  by_cases heq : w' = w
  · subst heq
    simp [formed, hfield, Value.argument?]
  · rw [if_neg heq]
    unfold formed
    cases w.field with
    | none => rfl
    | some _ => simp [Value.argument?, Ne.symm heq]

theorem bind?_tagPath {i j : Ident} (hi : i ∈ d.idents) :
    (MatchPattern.path (d.tagPath i)).bind? (d.scope item) (.constant (.tag j.text) : Value X) =
      some (if i.text = j.text then some [] else none) := by
  rw [MatchPattern.bind?, constant?_tagPath hi]
  simp [Value.constructor?, eq_comm]

namespace Describes

variable (h : d.Describes item)

include h

/-- A pattern for whatever a variant carries matches the values of that variant. -/
theorem bind?_anyFields (hw' : w' ∈ d.registry.variants) :
    (MatchPattern.anyFields (d.variantPath w'.ident)).bind? (d.scope item) (formed w x) =
      some (if w' = w then some [] else none) := by
  rw [MatchPattern.bind?, h.resolve?_variantPath hw', constructor?_formed, Option.map_some]
  simp [eq_comm]

/-- The pattern of an arm matches the values of its variant and binds their payload. -/
theorem bind?_armPattern (hw' : w' ∈ d.registry.variants) :
    (d.armPattern w').bind? (d.scope item) (formed w x) =
      some (if w' = w then some (w.field.elim [] fun _ => [("payload", x)]) else none) := by
  cases hfield : w'.field with
  | none =>
    rw [armPattern, hfield]
    simp only [MatchPattern.bind?, h.constant?_variantPath hw' hfield, constructor?_formed,
      Option.map_some]
    by_cases heq : w' = w
    · subst heq
      simp [hfield]
    · simp [heq, Ne.symm heq]
  | some field =>
    rw [armPattern, hfield]
    simp only [MatchPattern.bind?, h.function?_variantPath hw' hfield, argument?_formed hfield,
      Option.map_some]
    by_cases heq : w' = w
    · subst heq
      simp [hfield]
    · simp [heq]

end Describes

end Patterns

/-! ## Matches -/

section Matches

variable {X : Type} {x : Value X}

/-- Of arms that each belong to an element of a list, the one whose pattern matches is taken. -/
theorem evalArms?_map {ι : Type} [DecidableEq ι] {s : Scope} {env : Env X} {v : Value X}
    {p : ι → MatchPattern} {e : ι → Expr} {is : List ι} {i : ι} (hi : i ∈ is)
    (hmatch : ∀ j ∈ is, (p j).bind? s v = some (if j = i then some [] else none)) :
    evalArms? s env v (is.map fun j => (p j, e j)) = (e i).eval? s env := by
  induction is with
  | nil => cases hi
  | cons j rest ih =>
    rw [List.map_cons, evalArms?, hmatch j List.mem_cons_self]
    by_cases heq : j = i
    · rw [if_pos heq, heq]
      rfl
    · rw [if_neg heq]
      have hrest : i ∈ rest := List.mem_of_ne_of_mem (Ne.symm heq) hi
      exact ih hrest fun k hk => hmatch k (List.mem_cons_of_mem j hk)

/-- The arm of a variant gives the payload of its values, and others are left to the next arms. -/
theorem Describes.evalArms?_armPattern (h : d.Describes item) (hw' : w' ∈ d.registry.variants)
    (hx : w.field = none → x = .unit) {env : Env X} {function : Path} {c : Constructor}
    (hc : (d.scope item).function? function = some c) {nothing : Expr}
    (hnothing : ∀ env : Env X, nothing.eval? (d.scope item) env = some .unit)
    {rest : List (MatchPattern × Expr)} :
    evalArms? (d.scope item) env (formed w x)
        ((d.armPattern w', .apply function (w'.field.elim nothing fun _ => .name "payload")) ::
          rest) =
      if w' = w then some (.applied c x) else evalArms? (d.scope item) env (formed w x) rest := by
  rw [evalArms?, h.bind?_armPattern hw']
  by_cases heq : w' = w
  · subst heq
    rw [if_pos rfl, if_pos rfl]
    -- the payload is bound, unless there is none to bind
    cases hfield : w'.field with
    | none => simp [Expr.eval?, hc, hnothing, hx hfield]
    | some field => simp [Expr.eval?, hc]
  · rw [if_neg heq, if_neg heq]

end Matches

/-! ## Functions and constants -/

section Members

variable {X : Type} {x : Value X}

theorem call?_eq {s : Scope} {trait name : String} {argument : Option Path} {target : Path}
    {i : Implementation} {f : Function} {args : List (Value X)}
    (hi : s.code.implementation? trait argument target = some i) (hf : i.function? name = some f) :
    s.call? trait argument target name args = f.call? s args := by
  simp [Scope.call?, hi, hf]

theorem const?_eq {s : Scope} {trait name : String} {argument : Option Path} {target : Path}
    {i : Implementation} {e : Expr}
    (hi : s.code.implementation? trait argument target = some i) (he : i.const? name = some e) :
    (s.const? trait argument target name : Option (Value X)) = e.eval? s [] := by
  simp [Scope.const?, hi, he]

namespace Describes

variable (h : d.Describes item)

include h

theorem implementation?_tag :
    d.expand.implementation? "Tag" none (d.scope item).tagEnum = some d.tagImpl := by
  refine implementation?_eq h.names_nodup ?_ tagImpl_key
  simp [expand_implementations]

theorem implementation?_matchable :
    d.expand.implementation? "Matchable" none (d.scope item).enum = some d.matchableImpl := by
  refine implementation?_eq h.names_nodup ?_ ?_
  · simp [expand_implementations]
  · rw [matchableImpl_key, h.enum_eq]
    rfl

theorem implementation?_registry :
    d.expand.implementation? "Registry" none (d.scope item).enum = some d.registryImpl := by
  refine implementation?_eq h.names_nodup ?_ ?_
  · simp [expand_implementations]
  · rw [registryImpl_key, h.enum_eq]
    rfl

theorem implementation?_pattern (hw : w ∈ d.registry.variants) :
    d.expand.implementation? "Pattern" (d.scope item).enum
      ((d.scope item).marker (itemVariant w)) = some (d.patternImpl w) := by
  refine implementation?_eq h.names_nodup ?_ ?_
  · simp only [expand_implementations, List.mem_append, List.mem_flatMap]
    exact .inr ⟨w, hw, List.mem_cons_self⟩
  · rw [patternImpl_key, h.enum_eq]
    rfl

theorem implementation?_variant (hw : w ∈ d.registry.variants) :
    d.expand.implementation? "Variant" (d.scope item).enum
      ((d.scope item).marker (itemVariant w)) = some (d.variantImpl w) := by
  refine implementation?_eq h.names_nodup ?_ ?_
  · simp only [expand_implementations, List.mem_append, List.mem_flatMap]
    exact .inr ⟨w, hw, List.mem_cons_of_mem _ List.mem_cons_self⟩
  · rw [variantImpl_key, h.enum_eq]
    rfl

/-- A marker makes a value of its variant. -/
theorem inject?_eq (hw : w ∈ d.registry.variants) (hx : w.field = none → x = .unit) :
    (d.scope item).inject? (itemVariant w) x = some (formed w x) := by
  rw [Scope.inject?, call?_eq (h.implementation?_variant hw) rfl]
  cases hfield : w.field with
  | none =>
    -- the parameter of a unit variant takes nothing but the unit
    rw [hx hfield]
    simp [Function.call?, bindParams?, Body.eval?, Expr.eval?, h.constant?_variantPath hw hfield,
      formed, hfield]
  | some field =>
    simp [Function.call?, bindParams?, Body.eval?, Expr.eval?, h.function?_variantPath hw hfield,
      formed, hfield]

/-- A value has the tag of its variant. -/
theorem tagOf?_formed (hw : w ∈ d.registry.variants) :
    (d.scope item).tagOf? (formed w x) = some (.constant (.tag w.ident.text)) := by
  have hmem : w.ident ∈ d.idents := List.mem_map_of_mem hw
  -- of the arms, one for each identifier, only that of the variant matches
  have hmatch : ∀ i ∈ d.idents,
      (MatchPattern.anyFields (d.variantPath i)).bind? (d.scope item) (formed w x) =
        some (if i = w.ident then some [] else none) := by
    intro i hi
    obtain ⟨w', hw', rfl⟩ := List.mem_map.mp hi
    rw [h.bind?_anyFields hw']
    simp only [h.ident_inj hw' hw]
  rw [Scope.tagOf?, call?_eq h.implementation?_matchable rfl]
  show evalArms? (d.scope item) [("self", formed w x)] (formed w x) (d.idents.map _) = _
  rw [evalArms?_map hmem hmatch, Expr.eval?, constant?_tagPath hmem]
  rfl

/-- A tag is named by its variant as it is written. -/
theorem nameOf?_tag (hw : w ∈ d.registry.variants) :
    (d.scope item).nameOf? (.constant (.tag w.ident.text) : Value X) =
      some (.text w.ident.spelling) := by
  have hmem : w.ident ∈ d.idents := List.mem_map_of_mem hw
  have hmatch : ∀ i ∈ d.idents,
      (MatchPattern.path (d.tagPath i)).bind? (d.scope item)
          (.constant (.tag w.ident.text) : Value X) =
        some (if i = w.ident then some [] else none) := by
    intro i hi
    obtain ⟨w', hw', rfl⟩ := List.mem_map.mp hi
    rw [bind?_tagPath hi]
    simp only [h.ident_inj hw' hw, h.text_inj hw' hw]
  rw [Scope.nameOf?, call?_eq h.implementation?_tag rfl]
  show evalArms? (d.scope item) [("self", _)] _ (d.idents.map _) = _
  rw [evalArms?_map hmem hmatch]
  rfl

/-- A marker looks at the payload of exactly the values of its variant. -/
theorem peek?_formed (hw' : w' ∈ d.registry.variants) (hx : w.field = none → x = .unit) :
    (d.scope item).peek? (itemVariant w') (formed w x) =
      some (if w' = w then .applied .some x else .constant .none) := by
  rw [Scope.peek?, Scope.ofMarker?, call?_eq (h.implementation?_pattern hw') rfl]
  show evalArms? (d.scope item) [("self", _), ("value", formed w x)] (formed w x) _ = _
  rw [h.evalArms?_armPattern hw' hx rfl fun _ => rfl]
  by_cases heq : w' = w
  · rw [if_pos heq, if_pos heq]
  · rw [if_neg heq, if_neg heq]
    rfl

/-- A marker takes the payload of exactly the values of its variant and gives others back. -/
theorem take?_formed (hw' : w' ∈ d.registry.variants) (hx : w.field = none → x = .unit) :
    (d.scope item).take? (itemVariant w') (formed w x) =
      some (if w' = w then .applied .ok x else .applied .error (formed w x)) := by
  rw [Scope.take?, Scope.ofMarker?, call?_eq (h.implementation?_pattern hw') rfl]
  show evalArms? (d.scope item) [("self", _), ("value", formed w x)] (formed w x) _ = _
  rw [h.evalArms?_armPattern hw' hx rfl fun _ => rfl]
  by_cases heq : w' = w
  · rw [if_pos heq, if_pos heq]
  · rw [if_neg heq, if_neg heq]
    rfl

theorem markerTag?_eq (hw : w ∈ d.registry.variants) :
    (d.scope item).markerTag? (itemVariant w) = some (.constant (.tag w.ident.text) : Value X) := by
  have hmem : w.ident ∈ d.idents := List.mem_map_of_mem hw
  rw [Scope.markerTag?, Scope.ofMarker?, call?_eq (h.implementation?_pattern hw) rfl]
  show ((d.scope item).constant? (d.tagPath w.ident)).map Value.constant = _
  rw [constant?_tagPath hmem]
  rfl

theorem variantTag?_eq (hw : w ∈ d.registry.variants) :
    (d.scope item).variantTag? (itemVariant w) =
      some (.constant (.tag w.ident.text) : Value X) := by
  have hmem : w.ident ∈ d.idents := List.mem_map_of_mem hw
  rw [Scope.variantTag?, const?_eq (h.implementation?_variant hw) rfl, Expr.eval?,
    constant?_tagPath hmem]
  rfl

theorem tags?_eq :
    (d.scope item).tags? = some (.constants (d.idents.map fun i => .tag i.text) : Value X) := by
  have hconstants : (d.idents.map d.tagPath).mapM (d.scope item).constant? =
      some (d.idents.map fun i => .tag i.text) := by
    rw [List.mapM_map]
    exact mapM_eq_some_map fun i hi => constant?_tagPath hi
  rw [Scope.tags?, const?_eq h.implementation?_registry rfl, Expr.eval?, Expr.eval?, hconstants]
  rfl

theorem payloadType?_eq (hw : w ∈ d.registry.variants) :
    (d.scope item).payloadType? (itemVariant w) = some (payloadType w) := by
  rw [Scope.payloadType?, h.implementation?_pattern hw]
  rfl

end Describes

end Members

end Declaration

end TagDispatch.Derive
