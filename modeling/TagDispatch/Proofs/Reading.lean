import TagDispatch.Derive.Item
import TagDispatch.Proofs.Streams

/-!
# Tokens that are read

Every identifier that is read from a text has the form of one, whether it is written raw or not, and
no token but a delimiter is written as a bracket.
-/

namespace TagDispatch.Derive

open WordStream

/-! ## Identifiers -/

theorem continuesIdent_of_beginsIdent {c : Char} (h : beginsIdent c) : continuesIdent c := by
  simp only [beginsIdent, continuesIdent, Bool.or_eq_true] at h ⊢
  rcases h with hunderscore | hletter
  · exact .inl hunderscore
  · refine .inr ?_
    by_cases hascii : c.toNat < 0x80
    · rw [if_pos hascii] at hletter ⊢
      simp [Char.isAlphanum, hletter]
    · rw [if_neg hascii] at hletter ⊢
      simp [hletter]

/-- What a name goes on with up to its end has the form of an identifier. -/
theorem isIdentText_takeWhile {cs : List Char} (h : cs.head?.any beginsIdent) :
    isIdentText (cs.takeWhile continuesIdent) := by
  cases cs with
  | nil => cases h
  | cons c rest =>
    have hc : beginsIdent c := h
    rw [List.takeWhile_cons_of_pos (continuesIdent_of_beginsIdent hc), isIdentText, hc,
      Bool.true_and]
    exact List.all_takeWhile

theorem readIdent?_isIdentText {cs rest : List Char} {i : Ident}
    (h : readIdent? cs = some (i, rest)) : isIdentText i.text.toList := by
  have hname : ∀ {raw : Bool} {text after : List Char}, text.head?.any beginsIdent →
      (⟨String.ofList (text.takeWhile continuesIdent), raw⟩, after) = (i, rest) →
      isIdentText i.text.toList := by
    rintro raw text after hbegins heq
    obtain ⟨rfl, -⟩ := Prod.mk.inj heq
    rw [String.toList_ofList]
    exact isIdentText_takeWhile hbegins
  simp only [readIdent?] at h
  split at h
  · -- after `r#` a name is raw, and a lone `r` is a name itself
    split at h
    · rename_i hbegins
      split at h
      · cases h
      · exact hname hbegins (Option.some.inj h)
    · exact hname rfl (Option.some.inj h)
  · split at h
    · rename_i hbegins
      exact hname (by exact hbegins) (Option.some.inj h)
    · cases h
  · cases h

/-! ## Words that are no brackets -/

/-- A word whose first character is no delimiter is no bracket. -/
theorem plain_of_toList {s : String} {c : Char} {cs : List Char} (h : s.toList = c :: cs)
    (hc : isDelimiter c = false) : Plain s := by
  have hbrackets : ∀ w ∈ brackets, w.toList.head?.any isDelimiter = true := by decide
  refine plain_of_notMem fun hmem => ?_
  have hdelimiter := hbrackets s hmem
  rw [h, List.head?_cons, Option.any_some, hc] at hdelimiter
  cases hdelimiter

theorem plain_ofList {cs : List Char} (h : ∀ c ∈ cs.head?, isDelimiter c = false) :
    Plain (String.ofList cs) := by
  cases cs with
  | nil => decide
  | cons c rest => exact plain_of_toList String.toList_ofList (h c rfl)

theorem isDelimiter_of_beginsIdent {c : Char} (h : beginsIdent c) : isDelimiter c = false := by
  have hdelimiters : ∀ d ∈ ['(', ')', '[', ']', '\x7b', '\x7d'],
      d.toNat < 0x80 ∧ d ≠ '_' ∧ d.isAlpha = false := by
    simp
  cases hdelimiter : isDelimiter c with
  | false => rfl
  | true =>
    obtain ⟨hascii, hunderscore, halpha⟩ := hdelimiters c (of_decide_eq_true hdelimiter)
    simp [beginsIdent, hascii, hunderscore, halpha] at h

/-- No identifier is a bracket, whether it is reserved or not. -/
theorem plain_spelling {i : Ident} (hi : isIdentText i.text.toList) : Plain i.spelling := by
  obtain ⟨text, raw⟩ := i
  cases raw with
  | true => exact plain_of_toList (c := 'r') (by simp [Ident.spelling]; rfl) rfl
  | false =>
    cases htext : text.toList with
    | nil =>
      rw [htext] at hi
      cases hi
    | cons c rest =>
      rw [htext] at hi
      have hc := (Bool.and_eq_true_iff.mp hi).1
      exact plain_of_toList (by simpa [Ident.spelling] using htext) (isDelimiter_of_beginsIdent hc)

/-! ## Tokens -/

/-- The token is one that can be read. -/
def Token.Formed : Token → Prop
  | .ident i => isIdentText i.text.toList ∧ ¬(i.raw ∧ i.text ∈ neverRaw)
  | .literal written _ => Plain written
  | .mark c _ => isDelimiter c = false
  | .delimiter c => isDelimiter c = true
  | _ => True

section Tokens

variable {cs rest : List Char} {t : Token}

theorem readIdent?_raw {i : Ident} (h : readIdent? cs = some (i, rest)) :
    ¬(i.raw ∧ i.text ∈ neverRaw) := by
  have hplain : ∀ {text : String} {after : List Char}, (⟨text, false⟩, after) = (i, rest) →
      ¬(i.raw ∧ i.text ∈ neverRaw) := by
    rintro text after heq ⟨hraw, -⟩
    obtain ⟨rfl, -⟩ := Prod.mk.inj heq
    cases hraw
  simp only [readIdent?] at h
  split at h
  · split at h
    · split at h
      · cases h
      next hname =>
        obtain ⟨rfl, -⟩ := Prod.mk.inj (Option.some.inj h)
        exact fun hraw => hname hraw.2
    · exact hplain (Option.some.inj h)
  · split at h
    · exact hplain (Option.some.inj h)
    · cases h
  · cases h

/-- A literal begins where it is read. -/
theorem plain_readBefore {c : Char} (hc : isDelimiter c = false) (cs rest : List Char) :
    Plain (readBefore (c :: cs) rest) := by
  rw [readBefore]
  refine plain_ofList fun d hd => ?_
  cases hlength : (c :: cs).length - rest.length with
  | zero =>
    rw [hlength] at hd
    cases hd
  | succ n =>
    rw [hlength, List.take_succ_cons, List.head?_cons, Option.mem_some] at hd
    rwa [← hd]

theorem formed_of_map {α : Type} {read : Option α} {f : α → Token × List Char}
    (h : read.map f = some (t, rest)) (hf : ∀ a, (f a).1.Formed) : t.Formed := by
  obtain ⟨a, -, heq⟩ := Option.map_eq_some_iff.mp h
  have hformed := hf a
  rw [heq] at hformed
  exact hformed

theorem readSingleQuote?_formed (h : readSingleQuote? cs = some (t, rest)) : t.Formed := by
  unfold readSingleQuote? at h
  split at h
  · obtain ⟨rfl, -⟩ := Prod.mk.inj (Option.some.inj h)
    exact plain_readBefore (by decide) _ _
  · exact formed_of_map h fun _ => trivial

theorem readPrefixed?_formed {c : Char} (hc : isDelimiter c = false)
    (h : readPrefixed? (c :: cs) = some (t, rest)) : t.Formed := by
  have hliteral : ∀ after : List Char, (literalUpTo (c :: cs) after).1.Formed := fun _ =>
    plain_readBefore hc _ _
  simp only [readPrefixed?] at h
  split at h
  · split at h
    · exact formed_of_map h fun _ => trivial
    split at h
    · exact formed_of_map h fun _ => hliteral _
    split at h
    · exact formed_of_map h fun _ => hliteral _
    cases h
  · split at h
    · exact formed_of_map h hliteral
    cases h
  · cases h

theorem readToken?_formed (h : readToken? cs = some (t, rest)) : t.Formed := by
  have hsome : ∀ {t' : Token} {after : List Char}, some (t', after) = some (t, rest) → t'.Formed →
      t.Formed := by
    rintro t' after heq ht'
    obtain ⟨rfl, -⟩ := Prod.mk.inj (Option.some.inj heq)
    exact ht'
  cases cs with
  | nil => cases h
  | cons c cs =>
    simp only [readToken?] at h
    split at h
    · exact hsome h (by decide : Plain (String.ofList faultGroup))
    split at h
    next hdelimiter => exact hsome h hdelimiter
    next hdelimiter =>
      -- behind this check no token begins with a delimiter
      have hc : isDelimiter c = false := by simpa using hdelimiter
      split at h
      · exact formed_of_map h fun _ => trivial
      split at h
      · exact readSingleQuote?_formed h
      split at h
      · exact hsome h hc
      split at h
      · exact hsome h (plain_readBefore hc _ _)
      rcases Option.or_eq_some_iff.mp h with hprefixed | ⟨-, hident⟩
      · exact readPrefixed?_formed hc hprefixed
      · obtain ⟨⟨i, after⟩, hi, heq⟩ := Option.map_eq_some_iff.mp hident
        exact hsome (congrArg some heq) ⟨readIdent?_isIdentText hi, readIdent?_raw hi⟩

end Tokens

theorem readRuns?_formed {fuel : Nat} {cs : List Char} {runs : List (List Token)}
    (h : readRuns? fuel cs = some runs) : ∀ t ∈ runs.flatten, t.Formed := by
  induction fuel generalizing cs runs with
  | zero =>
    cases cs with
    | nil =>
      obtain rfl := Option.some.inj h
      simp
    | cons c rest => cases h
  | succ fuel ih =>
    cases cs with
    | nil =>
      obtain rfl := Option.some.inj h
      simp
    | cons c rest =>
      rw [readRuns?] at h
      split at h
      · obtain ⟨runs', hruns, rfl⟩ := Option.map_eq_some_iff.mp h
        simpa using ih hruns
      split at h
      · obtain ⟨runs', hruns, rfl⟩ := Option.map_eq_some_iff.mp h
        simpa using ih hruns
      · obtain ⟨runs', hruns, rfl⟩ := Option.map_eq_some_iff.mp h
        simpa [Token.Formed] using ih hruns
      · obtain ⟨⟨t, after⟩, ht, h⟩ := Option.bind_eq_some_iff.mp h
        obtain ⟨runs', hruns, h⟩ := Option.bind_eq_some_iff.mp h
        have hfirst := readToken?_formed ht
        have hrest := ih hruns
        -- the token begins the first run of what follows it
        cases runs' with
        | nil =>
          obtain rfl := Option.some.inj h
          simpa using hfirst
        | cons run runs' =>
          obtain rfl := Option.some.inj h
          rw [List.flatten_cons, List.cons_append, List.forall_mem_cons]
          exact ⟨hfirst, by simpa using hrest⟩

theorem runs?_eq_some {text : String} {runs : List (List Token)} (h : runs? text = some runs) :
    readRuns? text.length text.toList = some runs ∧ isBalanced [] runs.flatten := by
  obtain ⟨runs', hread, hbalanced⟩ := Option.bind_eq_some_iff.mp h
  split at hbalanced
  next hclosed =>
    obtain rfl := Option.some.inj hbalanced
    exact ⟨hread, hclosed⟩
  next => cases hbalanced

/-- What is relied on in a function that reads the runs of tokens of a text. -/
structure ReadsRuns (read : String → Option (List (List Token))) : Prop where
  /-- Names have the form of names, and nothing but a delimiter is written as a bracket. -/
  formed : ∀ {text : String} {runs : List (List Token)}, read text = some runs →
    ∀ t ∈ runs.flatten, t.Formed
  /-- Every group is closed in order. -/
  balanced : ∀ {text : String} {runs : List (List Token)}, read text = some runs →
    isBalanced [] runs.flatten = true

theorem readsRuns_runs? : ReadsRuns runs? where
  formed h := readRuns?_formed (runs?_eq_some h).1
  balanced h := (runs?_eq_some h).2

theorem tokens?_formed {text : String} {tokens : List Token} (h : tokens? text = some tokens) :
    ∀ t ∈ tokens, t.Formed := by
  obtain ⟨runs, hruns, rfl⟩ := Option.map_eq_some_iff.mp h
  exact readsRuns_runs?.formed hruns

end TagDispatch.Derive
