import TagDispatch.Proofs.Reading
import TagDispatch.Proofs.WellFormed

/-!
# Items that are read are well-formed

A text is read as tokens in which every delimiter is closed in order. Every other token is written
with a word that is no bracket, so the words of a text are nested like its tokens, and names are
legal unless they are reserved. Nothing but the visibility of an item is left open, since whatever
stands in its place is read.
-/

namespace TagDispatch.Derive

open WordStream

/-! ## Words of tokens -/

/-- Whether a character closes a group. -/
def IsCloser (c : Char) : Prop := c = ')' ∨ c = ']' ∨ c = '\x7d'

theorem isCloser_closing (c : Char) : IsCloser (closing c) := by
  unfold closing
  split
  · exact .inl rfl
  · exact .inr (.inl rfl)
  · exact .inr (.inr rfl)

theorem IsCloser.closes {c : Char} (h : IsCloser c) : closes (String.ofList [c]) = true := by
  rcases h with rfl | rfl | rfl <;> rfl

theorem opens_of_mem {c : Char} (h : c ∈ "([\x7b".toList) : opens (String.ofList [c]) = true := by
  have hcases : c = '(' ∨ c = '[' ∨ c = '\x7b' := by simpa using h
  rcases hcases with rfl | rfl | rfl <;> rfl

/-- A delimiter opens a group that its counterpart closes, or it closes one. -/
theorem reach_delimiter {c : Char} {expected : List Char}
    (hexpected : ∀ d ∈ expected, IsCloser d) {rest : List Token}
    (h : isBalanced expected (.delimiter c :: rest) = true) :
    ∃ expected', (∀ d ∈ expected', IsCloser d) ∧ isBalanced expected' rest = true ∧
      ∀ ws, reach (fun _ => false) expected.length (String.ofList [c] :: ws) =
        reach (fun _ => false) expected'.length ws := by
  simp only [isBalanced] at h
  split at h
  next hopens =>
    refine ⟨closing c :: expected, ?_, h, fun ws => ?_⟩
    · exact List.forall_mem_cons.mpr ⟨isCloser_closing c, hexpected⟩
    · rw [List.length_cons]
      cases expected.length with
      | zero => exact reach_zero_opens (opens_of_mem hopens) rfl
      | succ n => exact reach_succ_opens (opens_of_mem hopens)
  next =>
    split at h
    · cases h
    next d ds =>
      obtain ⟨hd, hds⟩ := List.forall_mem_cons.mp hexpected
      obtain ⟨heq, hrest⟩ := Bool.and_eq_true_iff.mp h
      obtain rfl := of_decide_eq_true heq
      exact ⟨ds, hds, hrest, fun ws => reach_closes hd.closes⟩

/-- Words are passed at the depth of the tokens that they are written for: `expected` is still to be
closed before the tokens, and the groups of `expected'` behind them. -/
def Passes (words : List String) (expected expected' : List Char) : Prop :=
  ∀ ws, reach (fun _ => false) expected.length (words ++ ws) =
    reach (fun _ => false) expected'.length ws

theorem passes_plain {w : String} (h : Plain w) {words : List String}
    {expected expected' : List Char} (hwords : Passes words expected expected') :
    Passes (w :: words) expected expected' := by
  intro ws
  rw [List.cons_append, ← hwords ws]
  cases expected.length with
  | zero => exact reach_zero_plain h rfl
  | succ n => exact reach_succ_plain h

/-- The words of tokens are nested like the tokens. -/
theorem passes_spellings {run : List Token} (hformed : ∀ t ∈ run, t.Formed) {expected : List Char}
    (hexpected : ∀ d ∈ expected, IsCloser d) {rest : List Token}
    (h : isBalanced expected (run ++ rest) = true) :
    ∃ expected', (∀ d ∈ expected', IsCloser d) ∧ isBalanced expected' rest = true ∧
      Passes (spellings run) expected expected' := by
  fun_induction spellings run generalizing expected with
  | case1 => exact ⟨expected, hexpected, h, fun _ => rfl⟩
  | case2 _ more ih | case3 _ more ih | case4 _ more ih | case5 _ more ih | case6 _ more ih
  | case7 _ more _ _ ih =>
    have hmore : ∀ t ∈ more, t.Formed := fun t ht => hformed t (by simp [ht])
    obtain ⟨expected', hclosers, hrest, hpasses⟩ :=
      ih hmore hexpected (by simpa [isBalanced] using h)
    exact ⟨expected', hclosers, hrest, passes_plain (by decide) hpasses⟩
  | case8 token more _ _ _ _ _ _ ih =>
    obtain ⟨htoken, hmore⟩ := List.forall_mem_cons.mp hformed
    -- every token but a delimiter leaves what is still to be closed as it is
    have hplain : ∀ w, token.spelling? = some w → Plain w →
        isBalanced expected (more ++ rest) = true →
        ∃ expected', (∀ d ∈ expected', IsCloser d) ∧ isBalanced expected' rest = true ∧
          Passes (token.spelling?.toList ++ spellings more) expected expected' := by
      intro w hw hplain hbalanced
      obtain ⟨expected', hclosers, hrest, hpasses⟩ := ih hmore hexpected hbalanced
      rw [hw]
      exact ⟨expected', hclosers, hrest, passes_plain hplain hpasses⟩
    cases token with
    | delimiter c =>
      obtain ⟨inner, hinner, hbalanced, hreach⟩ := reach_delimiter hexpected h
      obtain ⟨expected', hclosers, hrest, hpasses⟩ := ih hmore hinner hbalanced
      refine ⟨expected', hclosers, hrest, fun ws => ?_⟩
      rw [← hpasses ws]
      exact hreach (spellings more ++ ws)
    | documentation => exact ih hmore hexpected h
    | ident i => exact hplain _ rfl (plain_spelling htoken.1) h
    | lifetime i =>
      exact hplain _ rfl (plain_of_toList (c := '\'') (by simp; rfl) (by decide)) h
    | text value =>
      exact hplain _ rfl (plain_of_toList (c := '\x22') (by simp; rfl) (by decide)) h
    | literal written numeric => exact hplain _ rfl htoken h
    | mark c joint => exact hplain _ rfl (plain_of_toList String.toList_ofList htoken) h

/-- Marks open no groups and close none. -/
theorem isBalanced_marks {run : List Token} (hmarks : ∀ t ∈ run, ∃ c joint, t = .mark c joint)
    (expected : List Char) (rest : List Token) :
    isBalanced expected (run ++ rest) = isBalanced expected rest := by
  induction run with
  | nil => rfl
  | cons t more ih =>
    obtain ⟨⟨c, joint, rfl⟩, hmore⟩ := List.forall_mem_cons.mp hmarks
    exact ih hmore

/-- The words of a run are nested like its tokens, also where its marks are one word. -/
theorem passes_runSpellings {run : List Token} (hformed : ∀ t ∈ run, t.Formed)
    {expected : List Char} (hexpected : ∀ d ∈ expected, IsCloser d) {rest : List Token}
    (h : isBalanced expected (run ++ rest) = true) :
    ∃ expected', (∀ d ∈ expected', IsCloser d) ∧ isBalanced expected' rest = true ∧
      Passes (runSpellings run) expected expected' := by
  rw [runSpellings]
  split
  next hmarks =>
    obtain ⟨hall, hne⟩ := Bool.and_eq_true_iff.mp hmarks
    have hmark : ∀ t ∈ run, ∃ c joint, t = .mark c joint := by
      intro t ht
      have hmatch := List.all_eq_true.mp hall t ht
      cases t with
      | mark c joint => exact ⟨c, joint, rfl⟩
      | _ => cases hmatch
    rw [isBalanced_marks hmark] at h
    refine ⟨expected, hexpected, h, passes_plain ?_ fun _ => rfl⟩
    -- the word of all marks begins with the first of them
    cases run with
    | nil => cases hne
    | cons t more =>
      obtain ⟨c, joint, rfl⟩ := hmark t List.mem_cons_self
      have hc : isDelimiter c = false := hformed _ List.mem_cons_self
      exact plain_of_toList (by simp [Token.spelling?, String.join_cons]; rfl) hc
  next => exact passes_spellings hformed hexpected h

theorem passes_runs {runs : List (List Token)} (hformed : ∀ t ∈ runs.flatten, t.Formed)
    {expected : List Char} (hexpected : ∀ d ∈ expected, IsCloser d)
    (h : isBalanced expected runs.flatten = true) :
    Passes (runs.flatMap runSpellings) expected [] := by
  induction runs generalizing expected with
  | nil =>
    obtain rfl := List.isEmpty_iff.mp h
    exact fun _ => rfl
  | cons run more ih =>
    rw [List.flatten_cons] at hformed h
    obtain ⟨hrun, hmore⟩ := List.forall_mem_append.mp hformed
    obtain ⟨inner, hinner, hbalanced, hpasses⟩ := passes_runSpellings hrun hexpected h
    intro ws
    rw [List.flatMap_cons, List.append_assoc, hpasses, ih hmore hinner hbalanced ws]

/-! ## Parts of items -/

theorem exists_of_mem_mapM {α β : Type} {f : α → Option β} {l : List α} {l' : List β}
    (h : l.mapM f = some l') {b : β} (hb : b ∈ l') : ∃ a ∈ l, f a = some b := by
  induction l generalizing l' with
  | nil =>
    obtain rfl := Option.some.inj h
    cases hb
  | cons a rest ih =>
    rw [List.mapM_cons] at h
    obtain ⟨b', hb', h⟩ := Option.bind_eq_some_iff.mp h
    obtain ⟨rest', hrest, h⟩ := Option.bind_eq_some_iff.mp h
    obtain rfl := Option.some.inj h
    rcases List.mem_cons.mp hb with rfl | hmem
    · exact ⟨a, List.mem_cons_self, hb'⟩
    · obtain ⟨a', ha', hf⟩ := ih hrest hmem
      exact ⟨a', List.mem_cons_of_mem a ha', hf⟩

/-- In the words of a text that is read every group is closed. -/
theorem ReadsRuns.nested {read : String → Option (List (List Token))} (hread : ReadsRuns read)
    {text : String} {runs : List (List Token)} (h : read text = some runs) :
    Nested (runs.flatMap runSpellings) := by
  simpa [Nested] using passes_runs (hread.formed h) (by simp) (hread.balanced h) []

theorem nested_of_readType? {text : String} {type : Words} (h : readType? text = some type) :
    Nested type := by
  obtain ⟨runs, hruns, rfl⟩ := Option.map_eq_some_iff.mp h
  exact readsRuns_runs?.nested hruns

theorem legal_of_formed {i : Ident} (h : Token.Formed (.ident i))
    (hreserved : isReserved i = false) : i.Legal :=
  Ident.legal_iff.mpr ⟨h.1, by simp [hreserved], h.2⟩

theorem legal_of_readName? {text : String} {i : Ident} (h : readName? text = some i) : i.Legal := by
  unfold readName? at h
  split at h
  next j htokens =>
    split at h
    · cases h
    next hreserved =>
      obtain rfl := Option.some.inj h
      exact legal_of_formed (tokens?_formed htokens _ List.mem_cons_self) (by simpa using hreserved)
  next => cases h

theorem VariantText.legal_of_read? {text : VariantText} {v : ItemVariant}
    (h : text.read? = some v) : v.ident.Legal ∧
      ∀ types, v.fields = .unnamed types → ∀ type ∈ types, Nested type := by
  obtain ⟨i, hi, h⟩ := Option.bind_eq_some_iff.mp h
  have hname := legal_of_readName? hi
  split at h
  · obtain rfl := Option.some.inj h
    exact ⟨hname, fun types htypes => by cases htypes⟩
  · obtain ⟨types, htypes, rfl⟩ := Option.map_eq_some_iff.mp h
    refine ⟨hname, fun types' heq type htype => ?_⟩
    obtain rfl := Fields.unnamed.inj heq
    obtain ⟨written, -, hread⟩ := exists_of_mem_mapM htypes htype
    exact nested_of_readType? hread
  · obtain rfl := Option.some.inj h
    exact ⟨hname, fun types htypes => by cases htypes⟩
  · cases h

/-- The tokens in the list of an attribute that is read are read. -/
theorem AttributeText.formed_of_read? {text : AttributeText} {a : Attribute}
    (h : text.read? = some a) {tokens : List Token} (hform : a.form = .list tokens) :
    ∀ t ∈ tokens, t.Formed := by
  obtain ⟨path, -, h⟩ := Option.bind_eq_some_iff.mp h
  split at h
  · obtain rfl := Option.some.inj h
    cases hform
  · obtain rfl := Option.some.inj h
    cases hform
  · obtain ⟨tokens', htokens, rfl⟩ := Option.map_eq_some_iff.mp h
    obtain rfl := AttributeForm.list.inj hform
    exact tokens?_formed htokens
  · cases h

/-- The name and the attributes of an item that is read are read, and so are its variants, if it has
any. -/
theorem ItemText.of_read?_eq_some {text : ItemText} {item : Item} (h : text.read? = some item) :
    readName? text.name = some item.ident ∧
      text.attributes.mapM AttributeText.read? = some item.attributes ∧
      (item.variants = [] ∨ text.variants.mapM VariantText.read? = some item.variants) := by
  obtain ⟨kind, -, h⟩ := Option.bind_eq_some_iff.mp h
  obtain ⟨ident, hident, h⟩ := Option.bind_eq_some_iff.mp h
  obtain ⟨visibility, -, h⟩ := Option.bind_eq_some_iff.mp h
  obtain ⟨parameters, -, h⟩ := Option.bind_eq_some_iff.mp h
  obtain ⟨attributes, hattributes, h⟩ := Option.bind_eq_some_iff.mp h
  dsimp only at h
  split at h
  · obtain ⟨variants, hvariants, h⟩ := Option.bind_eq_some_iff.mp h
    obtain rfl := Option.some.inj h
    exact ⟨hident, hattributes, Or.inr hvariants⟩
  · obtain rfl := Option.some.inj h
    exact ⟨hident, hattributes, Or.inl rfl⟩

/-- The names of an item that is read are legal, and in the types of its fields every group is
closed. -/
theorem ItemText.legal_of_read? {text : ItemText} {item : Item} (h : text.read? = some item) :
    item.ident.Legal ∧ ∀ v ∈ item.variants, v.ident.Legal ∧
      ∀ types, v.fields = .unnamed types → ∀ type ∈ types, Nested type := by
  obtain ⟨hident, -, hvariants⟩ := of_read?_eq_some h
  refine ⟨legal_of_readName? hident, fun v hv => ?_⟩
  rcases hvariants with hnone | hmap
  · rw [hnone] at hv
    cases hv
  · obtain ⟨variant, -, hvariant⟩ := exists_of_mem_mapM hmap hv
    exact VariantText.legal_of_read? hvariant

/-- **Items that are read.** Whatever texts an item is read from, it is well-formed if what stands
in the place of its visibility is one. -/
theorem ItemText.wellFormed_of_read? {text : ItemText} {item : Item} (h : text.read? = some item)
    (hvisibility : IsVisibility item.visibility) : item.WellFormed := by
  obtain ⟨hident, hvariants⟩ := legal_of_read? h
  refine ⟨hvisibility, hident, fun v hv => (hvariants v hv).1, fun v hv => (hvariants v hv).2,
    fun a ha tokens hform i hi hreserved => ?_⟩
  obtain ⟨written, -, hattribute⟩ := exists_of_mem_mapM (of_read?_eq_some h).2.1 ha
  exact legal_of_formed (AttributeText.formed_of_read? hattribute hform _ hi) hreserved

end TagDispatch.Derive
