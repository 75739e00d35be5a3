import TagDispatch.Proofs.Transcripts

/-!
# Words around a spliced type

In what is emitted for a variant, the type of its field stands in a few places and the rest does not
depend on it: `fill_patternImpl`, `fill_variantImpl`. Around the type, every path of several names
that begins at the module or at the enum names the variant itself or the enum of tags:
`paths_patternImpl`, `paths_variantImpl`.
-/

namespace TagDispatch.Derive

namespace WordStream

/-! ## Paths in a stream -/

/-- The names that follow the first name of a path. -/
def namesAfter : List String → List String
  | mark :: name :: rest => if mark = "::" then name :: namesAfter rest else []
  | _ => []

/-- The paths of several names in a stream that do not begin at the root of all names; `inside` says
whether the mark of a path stands in front of the stream. -/
def paths (inside : Bool) : List String → List (List String)
  | [] => []
  | w :: rest =>
    if !inside && namesAfter rest ≠ [] && (nameOfSpelling? w).isSome then
      (w :: namesAfter rest) :: paths (w = "::") rest
    else paths (w = "::") rest

section Paths

variable {inside : Bool} {w : String} {rest : List String}

@[simp]
theorem namesAfter_of_ne (h : w ≠ "::") : namesAfter (w :: rest) = [] := by
  cases rest <;> simp [namesAfter, h]

@[simp]
theorem paths_nil : paths inside [] = [] := rfl

/-- A word that is no name begins no path. -/
theorem paths_of_none (h : nameOfSpelling? w = none) :
    paths inside (w :: rest) = paths (w = "::") rest := by
  simp [paths, h]

/-- A name alone is no path of several names. -/
theorem paths_of_nil (h : namesAfter rest = []) :
    paths inside (w :: rest) = paths (w = "::") rest := by
  simp [paths, h]

theorem paths_true : paths true (w :: rest) = paths (w = "::") rest := by
  simp [paths]

end Paths

/-! ## Gaps -/

/-- Fills every gap, a word of no characters, with words. -/
def fill (filling ws : List String) : List String :=
  ws.flatMap fun w => if w = "" then filling else [w]

theorem fill_append (filling ws ws' : List String) :
    fill filling (ws ++ ws') = fill filling ws ++ fill filling ws' :=
  List.flatMap_append

@[simp]
theorem fill_nil (filling : List String) : fill filling [] = [] := rfl

@[simp]
theorem fill_gap_cons (filling ws : List String) :
    fill filling ("" :: ws) = filling ++ fill filling ws := by
  simp [fill]

@[simp]
theorem fill_cons_of_ne {w : String} (hw : w ≠ "") (filling ws : List String) :
    fill filling (w :: ws) = w :: fill filling ws := by
  simp [fill, hw]

theorem fill_eq_self {ws : List String} (h : "" ∉ ws) (filling : List String) :
    fill filling ws = ws := by
  induction ws with
  | nil => rfl
  | cons w rest ih =>
    rw [List.mem_cons, not_or] at h
    rw [fill_cons_of_ne (Ne.symm h.1), ih h.2]

end WordStream

open WordStream

/-! ## Paths of declarations -/

section Paths

variable {p : Path} {rest : List String}

theorem namesAfter_tailWords {segments : List Ident} (hrest : namesAfter rest = []) :
    namesAfter (Path.tailWords segments ++ rest) = segments.map Ident.spelling := by
  induction segments with
  | nil => exact hrest
  | cons i more ih => simp [Path.tailWords, namesAfter, ih]

theorem paths_tailWords {segments : List Ident} (h : ∀ i ∈ segments, i.Legal) :
    paths false (Path.tailWords segments ++ rest) = paths false rest := by
  induction segments with
  | nil => rfl
  | cons i more ih =>
    obtain ⟨hi, hmore⟩ := List.forall_mem_cons.mp h
    have hne := hi.spelling_ne (w := "::") (by decide)
    have hcolons : nameOfSpelling? "::" = none := by decide
    simp [Path.tailWords, paths_of_none hcolons, paths_true, hne, ih hmore]

/-- A path is read as a whole if nothing goes on with it. -/
theorem paths_words (h : p.Legal) (hplain : p.rooted = false) (hrest : namesAfter rest = []) :
    paths false (p.words ++ rest) =
      (if 2 ≤ p.segments.length then [p.segments.map Ident.spelling] else []) ++
        paths false rest := by
  obtain ⟨segments, rooted⟩ := p
  obtain rfl : rooted = false := hplain
  cases segments with
  | nil => rfl
  | cons i more =>
    obtain ⟨hi, hmore⟩ := List.forall_mem_cons.mp h
    have hne := hi.spelling_ne (w := "::") (by decide)
    have hname : (nameOfSpelling? i.spelling).isSome := by rw [hi]; rfl
    have hafter : namesAfter (Path.tailWords more ++ rest) = more.map Ident.spelling :=
      namesAfter_tailWords hrest
    cases more with
    | nil => simp [Path.words, Path.lexemes, Path.tailWords, paths_of_nil hrest, hne]
    | cons j more =>
      simp [Path.words, Path.lexemes, paths, hafter, hname, hne, paths_tailWords hmore]

theorem paths_words_rooted (h : p.Legal) (hrooted : p.rooted = true) (rest : List String) :
    paths false (p.words ++ rest) = paths false rest := by
  obtain ⟨segments, rooted⟩ := p
  obtain rfl : rooted = true := hrooted
  simpa [Path.words, Path.lexemes] using paths_tailWords h

end Paths

/-- The variant with a gap in place of its type. -/
def gapped (w : Variant Words) : Variant Words :=
  ⟨w.ident, w.field.map fun _ => [""]⟩

namespace Declaration

/-! ## Markers -/

/-- The paths of several names that an implementation for the marker of a variant may go by. -/
def ownPaths (d : Declaration) (w : Variant Words) : List (List String) :=
  [[d.module.spelling, "Tag"], [d.module.spelling, w.ident.spelling],
    [d.module.spelling, "Tag", w.ident.spelling], [d.registry.ident.spelling, w.ident.spelling]]

namespace WellFormed

variable {d : Declaration} (h : d.WellFormed) {w : Variant Words}

include h

variable {i : Ident} {rest : List String}

attribute [local simp] Implementation.words Implementation.lexemes Member.lexemes Function.lexemes
  Body.lexemes Expr.lexemes MatchPattern.lexemes Param.lexemes TypeExpr.lexemes attributeLexemes
  allowLexemes braced parenthesized separated rootedWords gapped paths_of_none paths_of_nil
  paths_true namesAfter

theorem paths_self (hrest : namesAfter rest = []) :
    paths false (d.self.words ++ rest) = paths false rest := by
  simpa [self] using paths_words h.legal_self rfl hrest

theorem paths_tagEnum (hrest : namesAfter rest = []) :
    paths false (d.tagEnum.words ++ rest) = [d.module.spelling, "Tag"] :: paths false rest := by
  simpa [tagEnum] using paths_words h.legal_tagEnum rfl hrest

theorem paths_tagPath (hi : i.Legal) (hrest : namesAfter rest = []) :
    paths false ((d.tagPath i).words ++ rest) =
      [d.module.spelling, "Tag", i.spelling] :: paths false rest := by
  simpa [tagPath] using paths_words (h.legal_tagPath hi) rfl hrest

theorem paths_markerPath (hi : i.Legal) (hrest : namesAfter rest = []) :
    paths false ((d.markerPath i).words ++ rest) =
      [d.module.spelling, i.spelling] :: paths false rest := by
  simpa [markerPath] using paths_words (h.legal_markerPath hi) rfl hrest

theorem paths_variantPath (hi : i.Legal) (hrest : namesAfter rest = []) :
    paths false ((d.variantPath i).words ++ rest) =
      [d.registry.ident.spelling, i.spelling] :: paths false rest := by
  simpa [variantPath] using paths_words (h.legal_variantPath hi) rfl hrest

theorem paths_patternImpl (hw : w ∈ d.registry.variants) :
    ∀ p ∈ paths false (d.patternImpl (gapped w)).words, p ∈ d.ownPaths w := by
  have hw := h.names w hw
  have hlibrary := paths_words_rooted (legal_libraryPath "Pattern" (by decide)) rfl
  have hcore := fun names hnames => paths_words_rooted (legal_corePath names hnames) rfl
  simp only [List.forall_mem_cons] at hcore
  obtain ⟨hsome, hnone, hok, herr, -⟩ := hcore
  cases hfield : w.field with
  | none =>
    simp +decide [ownPaths, patternImpl, payloadType, armPattern, hfield, h.paths_self,
      h.paths_tagEnum, h.paths_tagPath hw, h.paths_markerPath hw, h.paths_variantPath hw, hlibrary,
      hsome, hnone, hok, herr]
  | some type =>
    simp +decide [ownPaths, patternImpl, payloadType, armPattern, hfield, h.paths_self,
      h.paths_tagEnum, h.paths_tagPath hw, h.paths_markerPath hw, h.paths_variantPath hw, hlibrary,
      hsome, hnone, hok, herr]

theorem paths_variantImpl (hw : w ∈ d.registry.variants) :
    ∀ p ∈ paths false (d.variantImpl (gapped w)).words, p ∈ d.ownPaths w := by
  have hw := h.names w hw
  have hlibrary := paths_words_rooted (legal_libraryPath "Variant" (by decide)) rfl
  cases hfield : w.field with
  | none =>
    simp +decide [ownPaths, variantImpl, hfield, h.paths_self, h.paths_tagEnum, h.paths_tagPath hw,
      h.paths_markerPath hw, h.paths_variantPath hw, hlibrary]
  | some type =>
    simp +decide [ownPaths, variantImpl, hfield, h.paths_self, h.paths_tagEnum, h.paths_tagPath hw,
      h.paths_markerPath hw, h.paths_variantPath hw, hlibrary]

omit h in
theorem fill_words {p : Path} (hp : p.Legal) (filling rest : List String) :
    fill filling (p.words ++ rest) = p.words ++ fill filling rest := by
  rw [fill_append, fill_eq_self (hp.notMem_words (by decide) (by decide))]

/-- The type of a field stands in the gaps, and nowhere else does the pattern depend on it. -/
theorem fill_patternImpl (hw : w ∈ d.registry.variants) :
    fill (w.field.getD []) (d.patternImpl (gapped w)).words = (d.patternImpl w).words := by
  have hw := h.names w hw
  have hlibrary := fill_words (legal_libraryPath "Pattern" (by decide))
  have hcore := fun names hnames => fill_words (legal_corePath names hnames)
  simp only [List.forall_mem_cons] at hcore
  obtain ⟨hsome, hnone, hok, herr, -⟩ := hcore
  cases hfield : w.field <;>
    simp +decide [patternImpl, payloadType, armPattern, hfield, fill_words h.legal_self,
      fill_words h.legal_tagEnum, fill_words (h.legal_tagPath hw),
      fill_words (h.legal_markerPath hw), fill_words (h.legal_variantPath hw), hlibrary, hsome,
      hnone, hok, herr]

theorem fill_variantImpl (hw : w ∈ d.registry.variants) :
    fill (w.field.getD []) (d.variantImpl (gapped w)).words = (d.variantImpl w).words := by
  have hw := h.names w hw
  have hlibrary := fill_words (legal_libraryPath "Variant" (by decide))
  cases hfield : w.field <;>
    simp +decide [variantImpl, hfield, fill_words h.legal_self, fill_words h.legal_tagEnum,
      fill_words (h.legal_tagPath hw), fill_words (h.legal_markerPath hw),
      fill_words (h.legal_variantPath hw), hlibrary]

end WellFormed

end Declaration

end TagDispatch.Derive
