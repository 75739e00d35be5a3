import Mathlib
import TagDispatch.Text.SnakeCase

/-!
# Characters of names in snake case

Snake case takes a name apart, lowers its words and joins them again. None of this makes a capital
of ASCII, and none of it makes or loses a number sign, the sign that tells raw names from plain
ones. These are the laws that names of modules rest on. They are stated of any function as `Casing`,
and results follow from them; that snake case is such a function is `casing_snakeCase`.

The case table is checked once, in `le_of_mem_lowerRuns`: every lower form in it lies at or above
the letter `a`, where there are neither capitals nor the number sign.
-/

namespace TagDispatch.Text

/-- What is relied on in a function that writes names in snake case. -/
structure Casing (snake : String → String) : Prop where
  /-- It leaves no capital of ASCII. -/
  not_isUpper : ∀ {name : String} {c : Char}, c ∈ (snake name).toList → c.isUpper = false
  /-- It keeps the number sign, and makes none. -/
  sharp_mem_iff : ∀ name : String, '#' ∈ (snake name).toList ↔ '#' ∈ name.toList

/-- What a character becomes in lower case: no capital, and a number sign only if it was one. -/
structure Lowers (c d : Char) : Prop where
  not_isUpper : d.isUpper = false
  sharp_iff : d = '#' ↔ c = '#'

/-! ## The case table -/

theorem le_of_mem_lowerRuns : ∀ run ∈ lowerRuns,
    (0x61 : Int) ≤ run.first + run.distance ∧ (run.last + run.distance < 0xD800 ∨
      0xE000 ≤ run.first + run.distance ∧ run.last + run.distance < 0x110000) := by
  decide +kernel

theorem le_of_lookup {code lower : Nat} (h : CaseRun.lookup lowerRuns code = some lower) :
    0x61 ≤ (Char.ofNat lower).toNat := by
  obtain ⟨run, hfind, rfl⟩ := Option.map_eq_some_iff.mp h
  have hcontains := List.find?_some hfind
  simp only [CaseRun.contains, Bool.and_eq_true, decide_eq_true_eq] at hcontains
  obtain ⟨⟨hfirst, hlast⟩, -⟩ := hcontains
  obtain ⟨hle, hvalid⟩ := le_of_mem_lowerRuns run (List.mem_of_find?_eq_some hfind)
  have hchar : ((code : Int) + run.distance).toNat.isValidChar := by
    simp only [Nat.isValidChar]
    omega
  rw [Char.ofNat, dif_pos hchar]
  show 0x61 ≤ ((code : Int) + run.distance).toNat
  omega

theorem codes_of_lookup {code : Nat} {codes : List Nat}
    (h : lowerSpecial.lookup code = some codes) : codes = [0x69, 0x307] := by
  simp only [lowerSpecial, List.lookup] at h
  split at h <;> simp_all

/-- The lower form of a character outside ASCII lies at or above the letter `a`. -/
theorem le_of_mem_caseForm {c d : Char} (hc : 0x80 ≤ c.toNat)
    (hd : d ∈ caseForm lowerSpecial lowerRuns c) : 0x61 ≤ d.toNat := by
  unfold caseForm at hd
  split at hd
  next codes hspecial =>
    rw [codes_of_lookup hspecial] at hd
    have hforms : ∀ d ∈ [0x69, 0x307].map Char.ofNat, 0x61 ≤ d.toNat := by simp
    exact hforms d hd
  next =>
    obtain rfl := List.mem_singleton.mp hd
    cases hlookup : CaseRun.lookup lowerRuns c.toNat with
    | some lower => exact le_of_lookup hlookup
    | none => exact Nat.le_trans (by decide) hc

/-! ## Lower forms -/

theorem toLower_ascii : ∀ code < 0x80, Lowers (Char.ofNat code) (Char.ofNat code).toLower := by
  have hchecked : ∀ code < 0x80, (Char.ofNat code).toLower.isUpper = false ∧
      ((Char.ofNat code).toLower = '#' ↔ Char.ofNat code = '#') := by
    decide +kernel
  intro code hcode
  exact ⟨(hchecked code hcode).1, (hchecked code hcode).2⟩

theorem Lowers.of_le {c d : Char} (hc : 0x80 ≤ c.toNat) (hd : 0x61 ≤ d.toNat) : Lowers c d where
  not_isUpper := by
    have hletter : 'a'.val ≤ d.val := hd
    grind [Char.isUpper]
  sharp_iff := by
    constructor
    · rintro rfl
      exact absurd hd (by decide)
    · rintro rfl
      exact absurd hc (by decide)

theorem lowers_of_mem_lowerForm {c d : Char} (h : d ∈ lowerForm c) : Lowers c d := by
  unfold lowerForm at h
  split at h
  next hascii =>
    obtain rfl := List.mem_singleton.mp h
    have hlowers := toLower_ascii c.toNat hascii
    rwa [Char.ofNat_toNat] at hlowers
  next hascii =>
    have hc := Nat.le_of_not_lt hascii
    exact .of_le hc (le_of_mem_caseForm hc h)

theorem lowerForm_ne_nil (c : Char) : lowerForm c ≠ [] := by
  unfold lowerForm caseForm
  split
  · simp
  · split
    next codes hspecial => simp [codes_of_lookup hspecial]
    next => simp

/-- The first character becomes something in lower case, and the rest goes on after it. -/
theorem toLowerAfter_cons (before : List Char) (c : Char) (rest : List Char) :
    ∃ form, toLowerAfter before (c :: rest) = form ++ toLowerAfter (c :: before) rest ∧
      form ≠ [] ∧ ∀ d ∈ form, Lowers c d := by
  refine ⟨_, rfl, ?_⟩
  split
  next hsigma =>
    have hforms : ∀ d ∈ ['ς', 'σ'], Lowers c d := by
      subst hsigma
      have hle : ∀ d ∈ ['ς', 'σ'], 0x61 ≤ d.toNat := by simp
      exact fun d hd => .of_le (by decide) (hle d hd)
    split <;> simp_all
  next => exact ⟨lowerForm_ne_nil c, fun d => lowers_of_mem_lowerForm⟩

/-- A text in lower case consists of what its characters become. -/
theorem exists_of_mem_toLowerAfter {before cs : List Char} {d : Char}
    (h : d ∈ toLowerAfter before cs) : ∃ c ∈ cs, Lowers c d := by
  induction cs generalizing before with
  | nil => cases h
  | cons c rest ih =>
    obtain ⟨form, heq, -, hform⟩ := toLowerAfter_cons before c rest
    rw [heq] at h
    rcases List.mem_append.mp h with hd | hd
    · exact ⟨c, List.mem_cons_self, hform d hd⟩
    · obtain ⟨c', hc', hlowers⟩ := ih hd
      exact ⟨c', List.mem_cons_of_mem c hc', hlowers⟩

/-- Every character of a text becomes something in lower case. -/
theorem exists_mem_toLowerAfter {before cs : List Char} {c : Char} (h : c ∈ cs) :
    ∃ d ∈ toLowerAfter before cs, Lowers c d := by
  induction cs generalizing before with
  | nil => cases h
  | cons c' rest ih =>
    obtain ⟨form, heq, hne, hform⟩ := toLowerAfter_cons before c' rest
    rw [heq]
    rcases List.mem_cons.mp h with rfl | hrest
    · obtain ⟨d, hd⟩ := List.exists_mem_of_ne_nil form hne
      exact ⟨d, List.mem_append_left _ hd, hform d hd⟩
    · obtain ⟨d, hd, hlowers⟩ := ih hrest
      exact ⟨d, List.mem_append_right _ hd, hlowers⟩

/-! ## Words -/

theorem flatten_clusters (cs : List Char) : (clusters cs).flatten = cs := by
  induction cs with
  | nil => rfl
  | cons c rest ih =>
    rw [clusters]
    split
    next d ds others heq =>
      rw [heq] at ih
      split <;> simp [← ih]
    next => simp [ih]

/-- To split clusters into words drops underscores and nothing else. -/
theorem mem_flatten_splitWords {c : Char} (hc : c ≠ '_') (before : Option LetterKind)
    (cls : List (List Char)) : c ∈ (splitWords before cls).flatten ↔ c ∈ cls.flatten := by
  induction cls generalizing before with
  | nil => simp [splitWords]
  | cons cluster rest ih =>
    rw [List.flatten_cons, List.mem_append, ← ih (some (LetterKind.of cluster)), splitWords]
    cases splitWords (some (LetterKind.of cluster)) rest with
    | nil => simp
    | cons word more =>
      by_cases hunderscore : cluster = ['_']
      · simp [hunderscore, hc]
      · simp only [hunderscore, if_false]
        split <;> simp

/-- The words of a name hold its characters except underscores. -/
theorem mem_flatten_words {c : Char} (hc : c ≠ '_') (name : String) :
    c ∈ (words name).flatten ↔ c ∈ name.toList := by
  have hempty : (fun word : List Char => word != []) = fun word => decide (word ≠ []) := by
    funext word
    cases word <;> rfl
  rw [words, hempty, List.flatten_filter_ne_nil, mem_flatten_splitWords hc, flatten_clusters]

/-! ## Names -/

theorem mem_intercalate_iff {α : Type} {sep : List α} {x : α} (hx : x ∉ sep)
    (ls : List (List α)) : x ∈ sep.intercalate ls ↔ ∃ l ∈ ls, x ∈ l := by
  induction ls with
  | nil => simp
  | cons l rest ih =>
    cases rest with
    | nil => simp
    | cons l' more => simp [List.intercalate_cons_cons, ih, hx]

theorem mem_snakeCase_iff {d : Char} (hd : d ≠ '_') (name : String) :
    d ∈ (snakeCase name).toList ↔ ∃ word ∈ words name, d ∈ toLower word := by
  rw [snakeCase, String.toList_intercalate, mem_intercalate_iff (by simpa using hd)]
  simp

/-- A name in snake case has no capital of ASCII. -/
theorem not_isUpper_of_mem_snakeCase {name : String} {d : Char}
    (h : d ∈ (snakeCase name).toList) : d.isUpper = false := by
  by_cases hd : d = '_'
  · rw [hd]
    decide
  · obtain ⟨word, -, hmem⟩ := (mem_snakeCase_iff hd name).mp h
    obtain ⟨c, -, hlowers⟩ := exists_of_mem_toLowerAfter hmem
    exact hlowers.not_isUpper

/-- Snake case keeps the number sign, and makes none. -/
theorem sharp_mem_snakeCase_iff (name : String) :
    '#' ∈ (snakeCase name).toList ↔ '#' ∈ name.toList := by
  rw [mem_snakeCase_iff (by decide), ← mem_flatten_words (by decide), List.mem_flatten]
  constructor
  · rintro ⟨word, hword, hmem⟩
    obtain ⟨c, hc, hlowers⟩ := exists_of_mem_toLowerAfter hmem
    obtain rfl := hlowers.sharp_iff.mp rfl
    exact ⟨word, hword, hc⟩
  · rintro ⟨word, hword, hmem⟩
    obtain ⟨d, hd, hlowers⟩ : ∃ d ∈ toLower word, Lowers '#' d := exists_mem_toLowerAfter hmem
    obtain rfl := hlowers.sharp_iff.mpr rfl
    exact ⟨word, hword, hd⟩

theorem casing_snakeCase : Casing snakeCase where
  not_isUpper := not_isUpper_of_mem_snakeCase
  sharp_mem_iff := sharp_mem_snakeCase_iff

end TagDispatch.Text
