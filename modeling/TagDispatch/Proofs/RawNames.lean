import TagDispatch.Proofs.SnakeCase
import TagDispatch.Proofs.Spellings

/-!
# Raw names in snake case

Snake case is given a spelling, and the sign of a raw name is neither a letter nor an underscore to
it. It stays with the first word of the name. A name that begins with an underscore has no first
word there: the sign becomes a word of its own, so the underscore is kept, while a plain name loses
it. Otherwise both spellings of a name become spellings of one name.

That is all that is relied on for raw names. It is stated of any function as `RawCasing`, and what
becomes of an identifier follows from it; that snake case is such a function is
`rawCasing_snakeCase`.

A mark at the beginning of a name is joined to the sign. No such mark has a lower form, by the
tables of marks and of case, so the joined cluster is no capital and begins no word.
-/

namespace TagDispatch.Text

/-! ## Case behind the sign -/

@[simp]
theorem meetsCased_append_sharp (before bs : List Char) :
    meetsCased (before ++ '#' :: bs) = meetsCased before := by
  have hignorable : caseIgnorableRanges.contains '#' = false := by decide +kernel
  have hcased : casedRanges.contains '#' = false := by decide +kernel
  induction before with
  | nil => simp [meetsCased, hignorable, hcased]
  | cons c rest ih =>
    by_cases h : caseIgnorableRanges.contains c = true
    · simpa [meetsCased, h] using ih
    · simp [meetsCased, h]

/-- No sigma looks past a number sign. -/
theorem toLowerAfter_append_sharp (before bs cs : List Char) :
    toLowerAfter (before ++ '#' :: bs) cs = toLowerAfter before cs := by
  induction cs generalizing before with
  | nil => rfl
  | cons c rest ih =>
    rw [toLowerAfter, toLowerAfter, meetsCased_append_sharp, ← List.cons_append, ih]

theorem toLower_sharp (cs : List Char) : toLower ('#' :: cs) = '#' :: toLower cs :=
  congrArg ('#' :: ·) (toLowerAfter_append_sharp [] [] cs)

theorem toLower_raw (cs : List Char) : toLower ('r' :: '#' :: cs) = 'r' :: '#' :: toLower cs :=
  congrArg ('r' :: '#' :: ·) (toLowerAfter_append_sharp [] ['r'] cs)

theorem toUpper_sharp (cs : List Char) : toUpper ('#' :: cs) = '#' :: toUpper cs := rfl

theorem LetterKind.of_sharp {cs : List Char} (h : cs.all Char.isDigit = false) :
    LetterKind.of ('#' :: cs) = LetterKind.of cs := by
  have hsharp : ('#' :: cs).all Char.isDigit = false := by simp
  simp only [LetterKind.of, toUpper_sharp, toLower_sharp, ne_eq, List.cons.injEq, true_and, h,
    hsharp]

/-! ## Marks at the beginning of a name -/

/-- Whether two sets have no character in common, by their ranges. -/
def Ranges.apart (ranges others : Ranges) : Bool :=
  ranges.all fun range => others.all fun other =>
    range.2.blt other.1 || other.2.blt range.1

theorem Ranges.contains_of_apart {ranges others : Ranges} (h : ranges.apart others = true)
    {c : Char} (hc : ranges.contains c = true) : others.contains c = false := by
  rw [Ranges.contains, List.any_eq_false]
  rw [Ranges.contains, List.any_eq_true] at hc
  obtain ⟨range, hrange, hin⟩ := hc
  intro other hother
  have hapart := List.all_eq_true.mp (List.all_eq_true.mp h range hrange) other hother
  simp only [Bool.and_eq_true, Bool.or_eq_true, decide_eq_true_eq, Nat.blt_eq] at hin hapart ⊢
  omega

/-- The marks that a cluster goes on with. -/
def markRanges : Ranges := (0x200D, 0x200D) :: (extendingRanges ++ spacingMarkRanges)

/-- Ranges without marks in which all letters lie that have a lower form. -/
def loweredRanges : Ranges :=
  [(0x41, 0x24E), (0x370, 0x480), (0x48A, 0x556), (0x10A0, 0x10CD), (0x13A0, 0x13F5),
   (0x1C89, 0x1CBF), (0x1E00, 0x1FFC), (0x2126, 0x2CED), (0x2CF2, 0x2CF2), (0xA640, 0xA66C),
   (0xA680, 0xA69A), (0xA722, 0xA7F5), (0xFF21, 0xFF3A), (0x10400, 0x10595), (0x10C80, 0x10CB2),
   (0x10D50, 0x10D65), (0x118A0, 0x118BF), (0x16E40, 0x16EB8), (0x1E900, 0x1E921)]

theorem exists_loweredRange : ∀ run ∈ lowerRuns,
    ∃ range ∈ loweredRanges, range.1 ≤ run.first ∧ run.last ≤ range.2 := by
  decide +kernel

/-- No mark is a leading sign, and none lies where letters have lower forms. -/
theorem markRanges_apart : markRanges.apart (leadingRanges ++ loweredRanges) = true := by
  decide +kernel

theorem markRanges_contains {c : Char} (h : continuesCluster c = true) :
    markRanges.contains c = true := by
  simp only [continuesCluster, Ranges.contains, Bool.and_eq_true, Bool.or_eq_true,
    decide_eq_true_eq] at h
  rw [markRanges, Ranges.contains, List.any_cons, List.any_append, Bool.or_eq_true, Bool.or_eq_true]
  obtain ⟨-, (rfl | hextending) | hspacing⟩ := h
  · exact .inl rfl
  · exact .inr (.inl hextending)
  · exact .inr (.inr hspacing)

theorem contains_of_continuesCluster {c : Char} (h : continuesCluster c = true) :
    leadingRanges.contains c = false ∧ loweredRanges.contains c = false := by
  have happend := Ranges.contains_of_apart markRanges_apart (markRanges_contains h)
  simpa [Ranges.contains, -List.any_eq_false] using happend

theorem lowerForm_mark {c : Char} (h : continuesCluster c = true) :
    c ≠ 'Σ' ∧ lowerForm c = [c] := by
  have hlowered := (contains_of_continuesCluster h).2
  have hout : ∀ range ∈ loweredRanges, ¬(range.1 ≤ c.toNat ∧ c.toNat ≤ range.2) := by
    simpa [Ranges.contains] using hlowered
  have hascii : 0x80 ≤ c.toNat := by
    simp only [continuesCluster, Bool.and_eq_true, decide_eq_true_eq] at h
    exact h.1
  have hlookup : CaseRun.lookup lowerRuns c.toNat = none := by
    rw [CaseRun.lookup, Option.map_eq_none_iff, List.find?_eq_none]
    intro run hrun hcontains
    obtain ⟨range, hrange, hfirst, hlast⟩ := exists_loweredRange run hrun
    simp only [CaseRun.contains, Bool.and_eq_true, decide_eq_true_eq] at hcontains
    exact hout range hrange ⟨by omega, by omega⟩
  have hspecial : lowerSpecial.lookup c.toNat = none := by
    have hne : c.toNat ≠ 0x130 := fun heq => hout (0x41, 0x24E) (by decide) (by omega)
    rw [lowerSpecial, List.lookup, beq_eq_false_iff_ne.mpr hne]
    rfl
  refine ⟨?_, ?_⟩
  · rintro rfl
    exact hout (0x370, 0x480) (by decide) (by decide)
  · rw [lowerForm, if_neg (by omega), caseForm, hspecial, hlookup]
    rfl

/-- Marks are in lower case. -/
theorem toLowerAfter_marks {cs : List Char} (h : ∀ c ∈ cs, continuesCluster c = true)
    (before : List Char) : toLowerAfter before cs = cs := by
  induction cs generalizing before with
  | nil => rfl
  | cons c rest ih =>
    obtain ⟨hc, hrest⟩ := List.forall_mem_cons.mp h
    obtain ⟨hsigma, hform⟩ := lowerForm_mark hc
    rw [toLowerAfter, if_neg hsigma, hform, ih hrest]
    rfl

/-- The first cluster begins with the first character. -/
theorem exists_clusters_cons (c : Char) (cs : List Char) :
    ∃ ds others, clusters (c :: cs) = (c :: ds) :: others := by
  rw [clusters]
  split
  · split_ifs
    · exact ⟨_, _, rfl⟩
    · exact ⟨_, _, rfl⟩
  · exact ⟨_, _, rfl⟩

/-- A cluster that begins with a mark consists of marks. -/
theorem continuesCluster_of_mem {cs cluster : List Char} {others : List (List Char)} {d : Char}
    (hd : continuesCluster d = true) (h : clusters (d :: cs) = cluster :: others) :
    ∀ c ∈ cluster, continuesCluster c = true := by
  induction cs generalizing d cluster others with
  | nil =>
    obtain ⟨rfl, -⟩ := List.cons.inj h
    simpa using hd
  | cons e rest ih =>
    obtain ⟨ds, more, hrest⟩ := exists_clusters_cons e rest
    rw [clusters, hrest] at h
    dsimp only at h
    split at h
    next hjoined =>
      obtain ⟨rfl, -⟩ := List.cons.inj h
      -- a mark is no leading sign, so it is joined to another mark
      have he : continuesCluster e = true := by
        simpa [leadsCluster, (contains_of_continuesCluster hd).1] using hjoined
      exact List.forall_mem_cons.mpr ⟨hd, ih he hrest⟩
    next =>
      obtain ⟨rfl, -⟩ := List.cons.inj h
      simpa using hd

/-! ## Words -/

theorem splitWords_ne_nil (before : Option LetterKind) (cls : List (List Char)) :
    splitWords before cls ≠ [] := by
  cases cls with
  | nil => simp [splitWords]
  | cons cluster rest =>
    rw [splitWords]
    split
    · simp
    · split_ifs <;> simp

/-- A cluster goes into the word that is read behind it unless a word begins there. -/
theorem splitWords_cons {before : Option LetterKind} {cluster : List Char}
    {rest : List (List Char)} (hunderscore : cluster ≠ ['_'])
    (hstay : before.any (fun b =>
      beginsWord b (LetterKind.of cluster) (rest.head?.map LetterKind.of)) = false) :
    splitWords before (cluster :: rest) =
      (splitWords (some (LetterKind.of cluster)) rest).modifyHead (cluster ++ ·) := by
  rw [splitWords]
  cases hrest : splitWords (some (LetterKind.of cluster)) rest with
  | nil => exact absurd hrest (splitWords_ne_nil _ _)
  | cons word more => simp [hunderscore, hstay]

/-- What is neither a letter nor a number does not end a word. -/
theorem splitWords_other (cls : List (List Char)) :
    splitWords (some .other) cls = splitWords none cls := by
  cases cls with
  | nil => rfl
  | cons cluster rest => simp [splitWords, beginsWord]

/-- The sign of a raw name is joined to the name if that begins with a mark. -/
theorem clusters_sharp (c : Char) (cs : List Char) :
    clusters ('#' :: c :: cs) = if continuesCluster c then
      (clusters (c :: cs)).modifyHead ('#' :: ·) else ['#'] :: clusters (c :: cs) := by
  obtain ⟨ds, others, hclusters⟩ := exists_clusters_cons c cs
  have hlead : leadsCluster '#' = false := rfl
  rw [clusters, hclusters]
  simp [hlead]

theorem all_isDigit_mark {c : Char} (hc : continuesCluster c = true) (cs : List Char) :
    (c :: cs).all Char.isDigit = false := by
  have hascii : 0x80 ≤ c.toNat := by
    simp only [continuesCluster, Bool.and_eq_true, decide_eq_true_eq] at hc
    exact hc.1
  have hdigit : c.isDigit = false := by
    have hlt : 57 < c.toNat := by omega
    simp [Char.isDigit, UInt32.le_iff_toNat_le, hlt]
  simp [hdigit]

/-- Marks are no capital and no number. -/
theorem LetterKind.of_marks {c : Char} {cs : List Char}
    (h : ∀ d ∈ c :: cs, continuesCluster d = true) :
    LetterKind.of (c :: cs) ≠ .upper ∧ LetterKind.of (c :: cs) ≠ .digit := by
  rw [LetterKind.of, toLower, toLowerAfter_marks h,
    all_isDigit_mark (h c List.mem_cons_self)]
  split_ifs with hupper
  · exact absurd hupper.2.symm hupper.1
  all_goals simp_all

/-- The sign of a raw name goes on in the first word of the name. -/
theorem splitWords_sharp (cs : List Char) :
    splitWords (some .lower) (clusters ('#' :: cs)) =
      (splitWords none (clusters cs)).modifyHead ('#' :: ·) := by
  have hsign : ∀ cls : List (List Char), splitWords (some .lower) (['#'] :: cls) =
      (splitWords none cls).modifyHead ('#' :: ·) := by
    intro cls
    have hkind : LetterKind.of ['#'] = .other := by decide
    rw [splitWords_cons (by decide) (by simp [hkind, beginsWord]), hkind, splitWords_other]
    rfl
  cases cs with
  | nil => exact hsign []
  | cons c rest =>
    rw [clusters_sharp]
    split_ifs with hc
    · -- the sign is in the cluster of a mark, whose kind it does not change
      obtain ⟨ds, others, hclusters⟩ := exists_clusters_cons c rest
      have hmarks := continuesCluster_of_mem hc hclusters
      have hkind := LetterKind.of_sharp (all_isDigit_mark hc ds)
      obtain ⟨hupper, hdigit⟩ := LetterKind.of_marks hmarks
      have hstay : beginsWord .lower (LetterKind.of (c :: ds)) (others.head?.map LetterKind.of) =
          false := by
        cases hcluster : LetterKind.of (c :: ds) <;> simp_all [beginsWord]
      have hunderscore : c :: ds ≠ ['_'] := by
        rintro heq
        obtain ⟨rfl, -⟩ := List.cons.inj heq
        revert hc
        decide
      rw [hclusters, List.modifyHead_cons, splitWords_cons (by simp) (by simpa [hkind] using hstay),
        hkind, splitWords_cons hunderscore rfl, List.modifyHead_modifyHead]
      rfl
    · exact hsign _

/-- The words of a raw name: its sign goes on in the word that comes first in it, and if the name
begins with an underscore that word is empty. -/
theorem splitWords_raw (cs : List Char) :
    splitWords none (clusters ('r' :: '#' :: cs)) =
      (splitWords none (clusters cs)).modifyHead ('r' :: '#' :: ·) := by
  obtain ⟨ds, others, hclusters⟩ := exists_clusters_cons '#' cs
  have hletter : clusters ('r' :: '#' :: cs) = ['r'] :: clusters ('#' :: cs) := by
    rw [clusters, hclusters]
    rfl
  have hkind : LetterKind.of ['r'] = .lower := by decide
  rw [hletter, splitWords_cons (by decide) rfl, hkind, splitWords_sharp, List.modifyHead_modifyHead]
  rfl

/-- The name begins with an underscore to which no mark is joined. -/
def BeginsUnderscore (name : String) : Prop := (clusters name.toList).head? = some ['_']

instance (name : String) : Decidable (BeginsUnderscore name) :=
  inferInstanceAs (Decidable (_ = _))

/-- The sign becomes a word before a name that begins with an underscore. -/
theorem words_raw_of_underscore {name : String} (h : BeginsUnderscore name) :
    words ("r#" ++ name) = ['r', '#'] :: words name := by
  obtain ⟨rest, hclusters⟩ := List.head?_eq_some_iff.mp h
  have hraw : ("r#" ++ name).toList = 'r' :: '#' :: name.toList := by simp
  have hsplit : splitWords none (['_'] :: rest) =
      [] :: splitWords (some (LetterKind.of ['_'])) rest := by
    rw [splitWords]
    cases hrest : splitWords (some (LetterKind.of ['_'])) rest with
    | nil => exact absurd hrest (splitWords_ne_nil _ _)
    | cons word more => rfl
  simp [words, hraw, splitWords_raw, hclusters, hsplit]

/-- The sign goes on in the first word of any other name. -/
theorem words_raw {name : String} (h : ¬BeginsUnderscore name) (hname : name ≠ "") :
    ∃ word more, words name = word :: more ∧
      words ("r#" ++ name) = ('r' :: '#' :: word) :: more := by
  obtain ⟨c, cs, hlist⟩ : ∃ c cs, name.toList = c :: cs :=
    List.exists_cons_of_ne_nil (by simpa using hname)
  obtain ⟨ds, others, hclusters⟩ := exists_clusters_cons c cs
  have hunderscore : c :: ds ≠ ['_'] := by
    simpa [BeginsUnderscore, hlist, hclusters] using h
  have hraw : ("r#" ++ name).toList = 'r' :: '#' :: name.toList := by simp
  cases hsplit : splitWords (some (LetterKind.of (c :: ds))) others with
  | nil => exact absurd hsplit (splitWords_ne_nil _ _)
  | cons word more =>
    have hwords : splitWords none (clusters name.toList) = (c :: ds ++ word) :: more := by
      rw [hlist, hclusters, splitWords_cons hunderscore rfl, hsplit, List.modifyHead_cons]
    exact ⟨c :: ds ++ word, more.filter (· != []), by simp [words, hwords],
      by simp [words, hraw, splitWords_raw, hwords]⟩

theorem toList_snakeCase (name : String) :
    (snakeCase name).toList = ['_'].intercalate ((words name).map toLower) := by
  rw [snakeCase, String.toList_intercalate, List.map_map]
  simp [Function.comp_def]

/-- Snake case keeps the sign of a raw name that does not begin with an underscore. -/
theorem snakeCase_raw {name : String} (h : ¬BeginsUnderscore name) :
    snakeCase ("r#" ++ name) = "r#" ++ snakeCase name := by
  by_cases hname : name = ""
  · subst hname
    decide
  · obtain ⟨word, more, hwords, hraw⟩ := words_raw h hname
    apply String.toList_injective
    rw [String.toList_append, toList_snakeCase, toList_snakeCase, hraw, hwords, List.map_cons,
      List.map_cons, toLower_raw]
    cases more <;> simp [List.intercalate_cons_cons]

theorem toLower_ne_nil {cs : List Char} (h : cs ≠ []) : toLower cs ≠ [] := by
  obtain ⟨c, rest, rfl⟩ := List.exists_cons_of_ne_nil h
  obtain ⟨form, heq, hform, -⟩ := toLowerAfter_cons [] c rest
  simp [toLower, heq, hform]

/-- Nothing is left of a name exactly if it has no words. -/
theorem snakeCase_eq_empty_iff {name : String} : snakeCase name = "" ↔ words name = [] := by
  rw [← String.toList_eq_nil_iff, toList_snakeCase]
  cases hwords : words name with
  | nil => simp
  | cons word more =>
    have hne : word ≠ [] := by
      have hmem : word ∈ words name := by simp [hwords]
      simpa using (List.mem_filter.mp hmem).2
    have hlower := toLower_ne_nil hne
    cases more <;> simp [List.intercalate_cons_cons, hlower]

/-- Before an underscore the sign becomes a word, so that the underscore is kept. -/
theorem snakeCase_raw_of_underscore {name : String} (h : BeginsUnderscore name) :
    snakeCase ("r#" ++ name) =
      "r#" ++ if snakeCase name = "" then "" else "_" ++ snakeCase name := by
  apply String.toList_injective
  rw [String.toList_append, toList_snakeCase, words_raw_of_underscore h, List.map_cons]
  have hsign : toLower ['r', '#'] = ['r', '#'] := by decide
  split_ifs with hempty
  · rw [snakeCase_eq_empty_iff.mp hempty, hsign]
    rfl
  · rw [String.toList_append, toList_snakeCase, hsign]
    obtain ⟨word, more, hwords⟩ :=
      List.exists_cons_of_ne_nil (mt snakeCase_eq_empty_iff.mpr hempty)
    simp [hwords, List.intercalate_cons_cons]

/-! ## Laws -/

/-- What is relied on, for names that are spelled raw, in a function that writes names in snake
case. -/
structure RawCasing (snake : String → String) : Prop extends Casing snake where
  /-- It keeps the sign of a raw name that does not begin with an underscore. -/
  raw : ∀ {name : String}, ¬BeginsUnderscore name → snake ("r#" ++ name) = "r#" ++ snake name
  /-- Before an underscore the sign is a word, so that the underscore is kept. -/
  raw_of_underscore : ∀ {name : String}, BeginsUnderscore name →
    snake ("r#" ++ name) = "r#" ++ if snake name = "" then "" else "_" ++ snake name

theorem rawCasing_snakeCase : RawCasing snakeCase where
  toCasing := casing_snakeCase
  raw := snakeCase_raw
  raw_of_underscore := snakeCase_raw_of_underscore

end TagDispatch.Text

namespace TagDispatch

open Derive

namespace Ident

variable {i j : Ident} {snake : String → String}

/-- What a function that writes names in snake case makes of an identifier: a raw name keeps an
underscore that it begins with. -/
def recase (snake : String → String) (i : Ident) : Ident where
  text :=
    if i.raw ∧ Text.BeginsUnderscore i.text ∧ snake i.text ≠ "" then "_" ++ snake i.text
    else snake i.text
  raw := i.raw

/-- The spelling of an identifier becomes a spelling. -/
theorem snake_spelling (hsnake : Text.RawCasing snake) (i : Ident) :
    snake i.spelling = (i.recase snake).spelling := by
  obtain ⟨text, raw⟩ := i
  cases raw with
  | false => simp [spelling, recase]
  | true =>
    by_cases h : Text.BeginsUnderscore text
    · simp only [spelling, recase, if_true, hsnake.raw_of_underscore h, h, true_and]
      split_ifs <;> simp_all
    · simp [spelling, recase, hsnake.raw h, h]

theorem sharp_notMem_recase (hsnake : Text.Casing snake) (hi : isIdentText i.text.toList) :
    '#' ∉ (i.recase snake).text.toList := by
  have hname : '#' ∉ (snake i.text).toList := by
    rw [hsnake.sharp_mem_iff]
    exact sharp_notMem hi
  simp only [recase]
  split_ifs
  · simpa using hname
  · exact hname

/-- The name that the spelling of an identifier becomes, if it is one. -/
theorem nameOfSpelling?_snake (hsnake : Text.RawCasing snake) (hi : isIdentText i.text.toList) :
    nameOfSpelling? (snake i.spelling) = some j ↔ i.recase snake = j ∧ (i.recase snake).Legal := by
  rw [snake_spelling hsnake, nameOfSpelling?_spelling (sharp_notMem_recase hsnake.toCasing hi)]

/-- What snake case makes of an identifier. -/
def snakeCase (i : Ident) : Ident := i.recase Text.snakeCase

example : (Ident.mk "_Type" false).snakeCase = ⟨"type", false⟩ := by decide +kernel

example : (Ident.mk "_Type" true).snakeCase = ⟨"_type", true⟩ := by decide +kernel

theorem nameOfSpelling?_snakeCase (hi : isIdentText i.text.toList) :
    nameOfSpelling? (Text.snakeCase i.spelling) = some j ↔ i.snakeCase = j ∧ i.snakeCase.Legal :=
  nameOfSpelling?_snake Text.rawCasing_snakeCase hi

/-- Both spellings of a name have the same name in snake case unless it begins with an
underscore. -/
theorem snakeCase_text_eq_iff (htext : i.text = j.text) (hi : i.snakeCase.Legal)
    (hj : j.snakeCase.Legal) :
    i.snakeCase.text = j.snakeCase.text ↔ i.raw = j.raw ∨ ¬Text.BeginsUnderscore i.text := by
  obtain ⟨text, raw⟩ := i
  obtain ⟨text', raw'⟩ := j
  obtain rfl : text = text' := htext
  by_cases h : Text.BeginsUnderscore text
  · -- a name with no words has no name in snake case
    have hwords : Text.snakeCase text ≠ "" := by
      intro hempty
      have hident := hi.isIdentText
      simp [snakeCase, recase, hempty, isIdentText] at hident
    have hne : "_" ++ Text.snakeCase text ≠ Text.snakeCase text := by
      intro heq
      have hlength := congrArg String.length heq
      simp at hlength
    cases raw <;> cases raw' <;> simp [snakeCase, recase, h, hwords, hne, hne.symm]
  · simp [snakeCase, recase, h]

/-- An underscore may stand before any name. -/
theorem legal_underscore {text : String} (h : isIdentText text.toList) :
    (Ident.mk ("_" ++ text) true).Legal := by
  refine legal_iff.mpr ⟨?_, by simp [isReserved], ?_⟩
  · have hbegins : beginsIdent '_' = true := by decide
    have hall : ∀ c ∈ text.toList, continuesIdent c = true := fun c => continuesIdent_of_mem h
    simpa [isIdentText, hbegins] using hall
  · rintro ⟨-, hmem⟩
    have hlone : ∀ w ∈ neverRaw, w.toList.head? = some '_' → w = "_" := by decide
    have hempty := congrArg String.toList (hlone _ hmem (by simp))
    obtain htext : text.toList = [] := by simpa using hempty
    rw [htext] at h
    cases h

/-- What is legal as it is plain is legal if it is written raw. -/
theorem Legal.raw {text : String} (h : (Ident.mk text false).Legal) :
    (Ident.mk text true).Legal := by
  obtain ⟨hident, hreserved, -⟩ := legal_iff.mp h
  have hnever : ∀ w ∈ neverRaw, isReserved ⟨w, false⟩ = true := by decide
  exact legal_iff.mpr ⟨hident, by simp [isReserved], fun hraw => hreserved (hnever text hraw.2)⟩

/-- A name that can name a module as it is plain can do so if it is written raw. -/
theorem Legal.snakeCase_raw {text : String} (h : (Ident.mk text false).snakeCase.Legal) :
    (Ident.mk text true).snakeCase.Legal := by
  have hplain : (Ident.mk text false).snakeCase = ⟨Text.snakeCase text, false⟩ := by
    simp [snakeCase, recase]
  rw [hplain] at h
  by_cases hunderscore : Text.BeginsUnderscore text ∧ Text.snakeCase text ≠ ""
  · have hraw : (Ident.mk text true).snakeCase = ⟨"_" ++ Text.snakeCase text, true⟩ := by
      simp [snakeCase, recase, hunderscore]
    rw [hraw]
    exact legal_underscore h.isIdentText
  · have hraw : (Ident.mk text true).snakeCase = ⟨Text.snakeCase text, true⟩ := by
      simpa [snakeCase, recase] using hunderscore
    rw [hraw]
    exact h.raw

/-- Two spellings of a name can name a module alike unless only a raw one can. -/
theorem legal_snakeCase_iff (htext : i.text = j.text) :
    (i.snakeCase.Legal ↔ j.snakeCase.Legal) ↔ i.raw = j.raw ∨
      ((Ident.mk j.text true).snakeCase.Legal → (Ident.mk j.text false).snakeCase.Legal) := by
  obtain ⟨text, raw⟩ := i
  obtain ⟨text', raw'⟩ := j
  obtain rfl : text = text' := htext
  have hraw : (Ident.mk text false).snakeCase.Legal → (Ident.mk text true).snakeCase.Legal :=
    Legal.snakeCase_raw
  cases raw <;> cases raw'
  · exact iff_of_true Iff.rfl (.inl rfl)
  · rw [or_iff_right Bool.false_ne_true]
    exact ⟨Iff.mpr, fun hplain => ⟨hraw, hplain⟩⟩
  · rw [or_iff_right Bool.false_ne_true.symm]
    exact ⟨Iff.mp, fun hplain => ⟨hplain, hraw⟩⟩
  · exact iff_of_true Iff.rfl (.inl rfl)

end Ident

end TagDispatch
