import Mathlib.Data.List.Forall2
import TagDispatch.Proofs.Acceptance

/-!
# Faults of attributes

An attribute for this derivation lists items, each of which names the module. What names it gives,
and which fault it has if it is not written like that, are said of its tokens as a whole. These are
read item by item up to the first fault: the items ahead of it are written `module = name`, and what
comes behind does not matter. In the same way the attributes of an item are read up to the first one
with a fault.

For lists of attributes this is `mapM_eq_error_iff`. Tokens split into items as far as those are
well written: `moduleNames_listed_append`. What follows for `moduleNames` is put down as the laws
`ReadsItems` of any function that reads lists, and attributes are treated by these alone.
-/

namespace TagDispatch.Derive

/-! ## Results -/

section Results

variable {ε α β : Type}

theorem map_eq_error_iff {f : α → β} {x : Except ε α} {e : ε} :
    x.map f = .error e ↔ x = .error e := by
  cases x <;> simp [Except.map]

theorem bind_eq_error_iff {f : α → Except ε β} {x : Except ε α} {e : ε} :
    (x >>= f) = .error e ↔ x = .error e ∨ ∃ a, x = .ok a ∧ f a = .error e := by
  cases x <;> simp [bind, Except.bind]

/-- A list is mapped if each element is. -/
theorem mapM_eq_ok_iff {f : α → Except ε β} {l : List α} {bs : List β} :
    l.mapM f = .ok bs ↔ List.Forall₂ (fun a b => f a = .ok b) l bs := by
  induction l generalizing bs with
  | nil =>
    rw [List.mapM_nil, List.forall₂_nil_left_iff]
    exact ⟨fun h => (Except.ok.inj h).symm, fun h => congrArg Except.ok h.symm⟩
  | cons a rest ih =>
    rw [List.mapM_cons, bind_eq_ok_iff, List.forall₂_cons_left_iff]
    simp only [bind_eq_ok_iff, ih]
    constructor
    · rintro ⟨b, hb, bs', hbs', h⟩
      exact ⟨b, bs', hb, hbs', (Except.ok.inj h).symm⟩
    · rintro ⟨b, bs', hb, hbs', rfl⟩
      exact ⟨b, hb, bs', hbs', rfl⟩

/-- The error of a list is that of the first element with one. -/
theorem mapM_eq_error_iff {f : α → Except ε β} {l : List α} {e : ε} :
    l.mapM f = .error e ↔ ∃ before a after, l = before ++ a :: after ∧
      (∀ b ∈ before, ∃ x, f b = .ok x) ∧ f a = .error e := by
  induction l with
  | nil => simp [pure, Except.pure]
  | cons a rest ih =>
    have hpure : ∀ b (bs : List β), (pure (b :: bs) : Except ε (List β)) ≠ .error e := by
      intro b bs h
      cases h
    rw [List.mapM_cons, bind_eq_error_iff]
    simp only [bind_eq_error_iff, ih, hpure, and_false, exists_false, or_false]
    constructor
    · rintro (ha | ⟨b, hb, before, a', after, rfl, hbefore, ha'⟩)
      · exact ⟨[], a, rest, rfl, by simp, ha⟩
      · exact ⟨a :: before, a', after, rfl, List.forall_mem_cons.mpr ⟨⟨b, hb⟩, hbefore⟩, ha'⟩
    · rintro ⟨before, a', after, heq, hbefore, ha'⟩
      cases before with
      | nil =>
        obtain ⟨rfl, rfl⟩ := List.cons.inj heq
        exact Or.inl ha'
      | cons b before =>
        obtain ⟨rfl, rfl⟩ := List.cons.inj heq
        obtain ⟨⟨x, hx⟩, hbefore⟩ := List.forall_mem_cons.mp hbefore
        exact Or.inr ⟨x, hx, before, a', after, rfl, hbefore, ha'⟩

end Results

/-! ## The items of an attribute -/

/-- The tokens of an item that names the module. -/
def moduleItem (joint : Bool) (name : Ident) : List Token :=
  [.ident ⟨"module", false⟩, .mark '=' joint, .ident name]

/-- Items that name the module, with a comma after each. -/
inductive Listed : List Token → List Ident → Prop
  | nil : Listed [] []
  | cons {joint comma : Bool} {name : Ident} {tokens : List Token} {names : List Ident}
      (hname : isReserved name = false) (h : Listed tokens names) :
      Listed (moduleItem joint name ++ .mark ',' comma :: tokens) (name :: names)

/-- A list of items that name the module; a comma at its end may be left out. -/
inductive ListsItems : List Token → List Ident → Prop
  | terminated {tokens : List Token} {names : List Ident} (h : Listed tokens names) :
      ListsItems tokens names
  | last {tokens : List Token} {names : List Ident} {joint : Bool} {name : Ident}
      (h : Listed tokens names) (hname : isReserved name = false) :
      ListsItems (tokens ++ moduleItem joint name) (names ++ [name])

/-- The fault where an item should begin: it is none that names the module, or no comma follows. -/
inductive FaultAt : List Token → AttributeError → Prop
  | item {tokens : List Token} (hne : tokens ≠ [])
      (h : ∀ joint name rest, isReserved name = false → tokens ≠ moduleItem joint name ++ rest) :
      FaultAt tokens (fault tokens)
  | comma {joint : Bool} {name : Ident} {next : Token} {rest : List Token}
      (hname : isReserved name = false) (hnext : ∀ comma, next ≠ .mark ',' comma) :
      FaultAt (moduleItem joint name ++ next :: rest) .noComma

/-- The fault of a list whose items are as they should be up to there. -/
def ListFault (tokens : List Token) (e : AttributeError) : Prop :=
  ∃ before names after, Listed before names ∧ tokens = before ++ after ∧ FaultAt after e

/-- What is relied on in a function that reads the names that a list gives to the module. -/
structure ReadsItems (read : List Token → Except AttributeError (List Ident)) : Prop where
  /-- A list is read if it lists items that name the module. -/
  ok_iff : ∀ {tokens : List Token} {names : List Ident},
    read tokens = .ok names ↔ ListsItems tokens names
  /-- A list that is not read is refused for its first fault. -/
  error_iff : ∀ {tokens : List Token} {e : AttributeError},
    read tokens = .error e ↔ ListFault tokens e

theorem moduleNames_item {joint : Bool} {name : Ident} (hname : isReserved name = false) :
    moduleNames (moduleItem joint name) = .ok [name] := by
  simp [moduleItem, moduleNames, hname]

/-- Items with a comma are read one by one. -/
theorem moduleNames_listed_append {before after : List Token} {names : List Ident}
    (h : Listed before names) :
    moduleNames (before ++ after) = (moduleNames after).map (names ++ ·) := by
  induction h with
  | nil => cases hafter : moduleNames after <;> simp [hafter, Except.map]
  | cons hname _ ih =>
    simp only [moduleItem, List.cons_append, List.nil_append, moduleNames, hname,
      Bool.false_eq_true, not_false_eq_true, and_self, if_true, ih]
    cases moduleNames after <;> rfl

theorem moduleNames_of_listsItems {tokens : List Token} {names : List Ident}
    (h : ListsItems tokens names) : moduleNames tokens = .ok names := by
  cases h with
  | terminated h =>
    have happend : moduleNames (tokens ++ []) = (moduleNames []).map (names ++ ·) :=
      moduleNames_listed_append h
    rw [List.append_nil] at happend
    rw [happend, moduleNames]
    exact congrArg Except.ok (List.append_nil names)
  | last h hname =>
    rw [moduleNames_listed_append h, moduleNames_item hname]
    rfl

theorem moduleNames_of_faultAt {tokens : List Token} {e : AttributeError} (h : FaultAt tokens e) :
    moduleNames tokens = .error e := by
  cases h with
  | item hne h =>
    unfold moduleNames
    split
    · exact absurd rfl hne
    · next key mark joint value rest =>
      rw [if_neg]
      -- the tokens would begin with an item after all
      rintro ⟨rfl, rfl, hvalue⟩
      exact h joint value rest (by simpa using hvalue) rfl
    · rfl
  | @comma joint name next rest hname hnext =>
    show moduleNames
      (.ident ⟨"module", false⟩ :: .mark '=' joint :: .ident name :: next :: rest) = _
    unfold moduleNames
    rw [if_pos ⟨rfl, rfl, by simp [hname]⟩]
    split
    · next heq => cases heq
    · next comma _ heq => exact absurd (List.cons.inj heq).1 (hnext comma)
    · rfl

/-- Items that name the module, up to the end or up to a fault. -/
theorem listsItems_or_listFault (tokens : List Token) :
    (∃ names, ListsItems tokens names) ∨ ∃ e, ListFault tokens e := by
  have hempty : ∀ {tokens e}, FaultAt tokens e → ListFault tokens e :=
    fun h => ⟨[], [], _, .nil, rfl, h⟩
  fun_induction moduleNames tokens with
  | case1 => exact Or.inl ⟨[], .terminated .nil⟩
  | case2 key mark joint value h =>
    obtain ⟨rfl, rfl, hvalue⟩ := h
    exact Or.inl ⟨[value], .last .nil (by simpa using hvalue)⟩
  | case3 key mark joint value h comma more ih =>
    obtain ⟨rfl, rfl, hvalue⟩ := h
    have hname : isReserved value = false := by simpa using hvalue
    rcases ih with ⟨names, hitems⟩ | ⟨e, before, names, after, hlisted, rfl, hfault⟩
    · left
      cases hitems with
      | terminated hlisted => exact ⟨_, .terminated (.cons hname hlisted)⟩
      | last hlisted hlast => exact ⟨_, .last (.cons hname hlisted) hlast⟩
    · exact Or.inr ⟨e, _, _, after, .cons hname hlisted, rfl, hfault⟩
  | case4 key mark joint value rest h hnil hcomma =>
    obtain ⟨rfl, rfl, hvalue⟩ := h
    have hname : isReserved value = false := by simpa using hvalue
    cases rest with
    | nil => exact absurd rfl hnil
    | cons next rest =>
      refine Or.inr ⟨_, hempty (@FaultAt.comma joint value next rest hname fun comma hnext => ?_)⟩
      exact hcomma comma rest (congrArg (· :: rest) hnext)
  | case5 key mark joint value rest h =>
    refine Or.inr ⟨_, hempty (.item (List.cons_ne_nil _ _) fun joint' name rest' hname heq => h ?_)⟩
    simp only [moduleItem, List.cons_append, List.nil_append, List.cons.injEq, Token.ident.injEq,
      Token.mark.injEq] at heq
    obtain ⟨hkey, ⟨hmark, -⟩, rfl, -⟩ := heq
    exact ⟨hkey, hmark, by simp [hname]⟩
  | case6 tokens hne h =>
    refine Or.inr ⟨_, hempty (.item (fun hnil => hne hnil) fun joint name rest hname heq => ?_)⟩
    exact h _ _ _ _ _ heq

theorem moduleNames_of_listFault {tokens : List Token} {e : AttributeError}
    (h : ListFault tokens e) : moduleNames tokens = .error e := by
  obtain ⟨before, names, after, hlisted, rfl, hfault⟩ := h
  rw [moduleNames_listed_append hlisted, moduleNames_of_faultAt hfault]
  rfl

theorem readsItems_moduleNames : ReadsItems moduleNames where
  ok_iff {tokens names} := by
    constructor
    · intro h
      rcases listsItems_or_listFault tokens with ⟨names', hitems⟩ | ⟨e, hfault⟩
      · rw [moduleNames_of_listsItems hitems] at h
        rwa [← Except.ok.inj h]
      · rw [moduleNames_of_listFault hfault] at h
        cases h
    · exact moduleNames_of_listsItems
  error_iff {tokens e} := by
    constructor
    · intro h
      rcases listsItems_or_listFault tokens with ⟨names, hitems⟩ | ⟨e', hfault⟩
      · rw [moduleNames_of_listsItems hitems] at h
        cases h
      · rw [moduleNames_of_listFault hfault] at h
        rwa [← Except.error.inj h]
    · exact moduleNames_of_listFault

/-- The laws leave nothing open: no other function obeys them. -/
theorem ReadsItems.eq_moduleNames {read : List Token → Except AttributeError (List Ident)}
    (h : ReadsItems read) : read = moduleNames := by
  funext tokens
  cases hread : read tokens with
  | ok names => exact (moduleNames_of_listsItems (h.ok_iff.mp hread)).symm
  | error e => exact (moduleNames_of_listFault (h.error_iff.mp hread)).symm

/-! ## Attributes -/

namespace Attribute

/-- The attribute is for this derivation. -/
def IsTagmatch (a : Attribute) : Prop := a.path = [.ident ⟨"tagmatch", false⟩]

instance (a : Attribute) : Decidable a.IsTagmatch :=
  inferInstanceAs (Decidable (a.path = [.ident ⟨"tagmatch", false⟩]))

/-- The attribute is as it should be and gives names to the module. -/
inductive Gives (a : Attribute) : List Ident → Prop
  | other (h : ¬a.IsTagmatch) : Gives a []
  | list {tokens : List Token} {names : List Ident} (h : a.IsTagmatch)
      (hform : a.form = .list tokens) (hitems : ListsItems tokens names) : Gives a names

/-- The fault of an attribute. -/
inductive Fault (a : Attribute) : AttributeError → Prop
  | bare (h : a.IsTagmatch) (hform : a.form = .bare) : Fault a .bare
  | assigned (h : a.IsTagmatch) (hform : a.form = .assigned) : Fault a .assigned
  | list {tokens : List Token} {e : AttributeError} (h : a.IsTagmatch)
      (hform : a.form = .list tokens) (hfault : ListFault tokens e) : Fault a e

variable {a : Attribute} {read : List Token → Except AttributeError (List Ident)}

theorem moduleNames_of_not (h : ¬a.IsTagmatch) : a.moduleNames read = .ok [] := if_neg h

theorem moduleNames_of_isTagmatch (h : a.IsTagmatch) :
    a.moduleNames read = match a.form with
      | .bare => .error .bare
      | .assigned => .error .assigned
      | .list tokens => read tokens :=
  if_pos h

variable (hread : ReadsItems read)

include hread

theorem gives_iff {names : List Ident} : a.moduleNames read = .ok names ↔ a.Gives names := by
  by_cases h : a.IsTagmatch
  · rw [moduleNames_of_isTagmatch h]
    constructor
    · intro hnames
      split at hnames
      · cases hnames
      · cases hnames
      · next tokens hform => exact .list h hform (hread.ok_iff.mp hnames)
    · intro hgives
      cases hgives with
      | other hnot => exact absurd h hnot
      | list _ hform hitems =>
        rw [hform]
        exact hread.ok_iff.mpr hitems
  · rw [moduleNames_of_not h]
    constructor
    · intro hnames
      rw [← Except.ok.inj hnames]
      exact .other h
    · intro hgives
      cases hgives with
      | other _ => rfl
      | list htagmatch => exact absurd htagmatch h

theorem fault_iff {e : AttributeError} : a.moduleNames read = .error e ↔ a.Fault e := by
  by_cases h : a.IsTagmatch
  · rw [moduleNames_of_isTagmatch h]
    constructor
    · intro herror
      split at herror
      · next hform =>
        rw [← Except.error.inj herror]
        exact .bare h hform
      · next hform =>
        rw [← Except.error.inj herror]
        exact .assigned h hform
      · next tokens hform => exact .list h hform (hread.error_iff.mp herror)
    · intro hfault
      cases hfault with
      | bare _ hform => rw [hform]
      | assigned _ hform => rw [hform]
      | list _ hform hfault =>
        rw [hform]
        exact hread.error_iff.mpr hfault
  · rw [moduleNames_of_not h]
    constructor
    · intro herror
      cases herror
    · intro hfault
      cases hfault <;> contradiction

end Attribute

/-- The names of all attributes are read attribute by attribute. -/
theorem givenNames_eq (attributes : List Attribute) :
    givenNames attributes =
      (attributes.mapM fun a : Attribute =>
        (a.moduleNames moduleNames).mapError DeriveError.inAttribute).map List.flatten := by
  induction attributes with
  | nil => rfl
  | cons a rest ih =>
    rw [givenNames, ih, List.mapM_cons]
    cases a.moduleNames moduleNames with
    | error e => rfl
    | ok names =>
      cases hrest : rest.mapM fun a : Attribute =>
          (a.moduleNames moduleNames).mapError DeriveError.inAttribute with
      | error e => rfl
      | ok given => rfl

theorem givenNames_eq_ok_iff {attributes : List Attribute} {names : List Ident} :
    givenNames attributes = .ok names ↔
      ∃ given, List.Forall₂ Attribute.Gives attributes given ∧ given.flatten = names := by
  have hgives : ∀ (a : Attribute) (names : List Ident),
      (a.moduleNames moduleNames).mapError DeriveError.inAttribute = .ok names ↔ a.Gives names := by
    intro a names
    rw [← Attribute.gives_iff readsItems_moduleNames]
    cases a.moduleNames moduleNames <;> simp [Except.mapError]
  rw [givenNames_eq, map_eq_ok_iff]
  simp only [mapM_eq_ok_iff, hgives]

theorem givenNames_eq_error_iff {attributes : List Attribute} {e : DeriveError} :
    givenNames attributes = .error e ↔ ∃ before a after e', attributes = before ++ a :: after ∧
      (∀ b ∈ before, ∃ names, b.Gives names) ∧ a.Fault e' ∧ e = .inAttribute e' := by
  have hgives : ∀ a : Attribute,
      (∃ names, (a.moduleNames moduleNames).mapError DeriveError.inAttribute = .ok names) ↔
        ∃ names, a.Gives names := by
    intro a
    simp only [← Attribute.gives_iff readsItems_moduleNames]
    cases a.moduleNames moduleNames <;> simp [Except.mapError]
  have hfault : ∀ a : Attribute,
      (a.moduleNames moduleNames).mapError DeriveError.inAttribute = .error e ↔
        ∃ e', a.Fault e' ∧ e = .inAttribute e' := by
    intro a
    simp only [← Attribute.fault_iff readsItems_moduleNames]
    cases a.moduleNames moduleNames <;> simp [Except.mapError, eq_comm]
  rw [givenNames_eq, map_eq_error_iff, mapM_eq_error_iff]
  simp only [hgives, hfault]
  constructor
  · rintro ⟨before, a, after, heq, hbefore, e', ha, he⟩
    exact ⟨before, a, after, e', heq, hbefore, ha, he⟩
  · rintro ⟨before, a, after, e', heq, hbefore, ha, he⟩
    exact ⟨before, a, after, heq, hbefore, e', ha, he⟩

end TagDispatch.Derive
