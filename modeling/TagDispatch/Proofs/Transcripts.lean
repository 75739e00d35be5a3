import TagDispatch.Derive.Expansion
import TagDispatch.Proofs.WellFormed

/-!
# Expansions as streams of words

What `Declaration.expand` emits is written as a module and one piece for each implementation. If the
names of the declaration are legal and the words that it splices in are nested, every header is
clear up to its body and every body is nested, so the stream falls into these pieces again.
-/

namespace TagDispatch.Derive

open WordStream

/-! ## Written lexemes -/

@[simp]
theorem written_nil : written [] = [] := rfl

@[simp]
theorem written_word (w : String) (ls : List Lexeme) :
    written (.word w :: ls) = w :: written ls :=
  rfl

@[simp]
theorem written_text (s : String) (ls : List Lexeme) :
    written (.text s :: ls) = ("\"" ++ s ++ "\"") :: written ls :=
  rfl

@[simp]
theorem written_append (ls ls' : List Lexeme) : written (ls ++ ls') = written ls ++ written ls' :=
  List.map_append

@[simp]
theorem written_flatMap {α : Type} (l : List α) (f : α → List Lexeme) :
    written (l.flatMap f) = l.flatMap fun a => written (f a) :=
  List.map_flatMap

@[simp]
theorem written_ofWords (ws : List String) : written (ofWords ws) = ws := by
  simp [written, ofWords, Function.comp_def, Lexeme.spelling]

@[simp]
theorem written_between (opening closing : String) (inner : List Lexeme) :
    written (between opening closing inner) = opening :: (written inner ++ [closing]) := by
  simp [between]

@[simp]
theorem written_terminated (groups : List (List Lexeme)) :
    written (terminated groups) = groups.flatMap fun group => written group ++ [","] := by
  simp [terminated]

theorem nested_separated {groups : List (List Lexeme)}
    (h : ∀ group ∈ groups, Nested (written group)) :
    Nested (written (separated groups)) := by
  induction groups with
  | nil => rfl
  | cons group rest ih =>
    obtain ⟨hgroup, hrest⟩ := List.forall_mem_cons.mp h
    cases rest with
    | nil => exact hgroup
    | cons group' rest =>
      have hmore := ih hrest
      rw [Nested] at hmore ⊢
      simp +decide [separated, hgroup.reach_never, hmore]

/-- Groups between commas are read as entries. -/
theorem entries_separated {groups : List (List Lexeme)}
    (h : ∀ group ∈ groups, Clear (· = ",") (written group) ∧ written group ≠ []) :
    entries (written (separated groups)) = groups.map written := by
  induction groups with
  | nil => simp [separated]
  | cons group rest ih =>
    obtain ⟨⟨hclear, hne⟩, hrest⟩ := List.forall_mem_cons.mp h
    cases rest with
    | nil => exact entries_last hclear hne
    | cons group' rest => simp [separated, entries_comma hclear, ih hrest]

@[simp]
theorem spelling_mk (name : String) : (⟨name, false⟩ : Ident).spelling = name := rfl

theorem text_ne (s : String) {w : String} (hw : w.toList.head? ≠ some '"') :
    "\"" ++ s ++ "\"" ≠ w := by
  rintro rfl
  simp at hw

/-- A text neither opens a group nor closes one. -/
theorem plain_text (s : String) : Plain ("\"" ++ s ++ "\"") := by
  have hheads : ∀ w ∈ brackets, w.toList.head? ≠ some '"' := by decide
  exact plain_of_notMem fun hmem => text_ne s (hheads _ hmem) rfl

/-! ## Paths -/

namespace Path

/-- The words of a path. -/
def words (p : Path) : List String := written p.lexemes

@[simp]
theorem written_lexemes (p : Path) : written p.lexemes = p.words := rfl

/-- All names of the path are legal. -/
def Legal (p : Path) : Prop := ∀ i ∈ p.segments, i.Legal

instance (p : Path) : Decidable p.Legal := inferInstanceAs (Decidable (∀ i ∈ p.segments, i.Legal))

variable {p : Path} {stop : String → Bool}

theorem mem_tailWords {w : String} {segments : List Ident} (hw : w ∈ tailWords segments) :
    w = "::" ∨ ∃ i ∈ segments, w = i.spelling := by
  induction segments with
  | nil => cases hw
  | cons i rest ih =>
    simp only [tailWords, List.mem_cons] at hw
    rcases hw with rfl | rfl | hrest
    · exact .inl rfl
    · exact .inr ⟨i, List.mem_cons_self, rfl⟩
    · exact (ih hrest).imp_right fun ⟨j, hj, hw⟩ => ⟨j, List.mem_cons_of_mem i hj, hw⟩

/-- A path is written with its names and one mark. -/
theorem mem_words {w : String} (hw : w ∈ p.words) :
    w = "::" ∨ ∃ i ∈ p.segments, w = i.spelling := by
  obtain ⟨segments, rooted⟩ := p
  cases rooted with
  | true => exact mem_tailWords (by simpa [words, lexemes] using hw)
  | false =>
    cases segments with
    | nil => simp [words, lexemes] at hw
    | cons i rest =>
      have hwords : w ∈ i.spelling :: tailWords rest := by simpa [words, lexemes] using hw
      rcases List.mem_cons.mp hwords with rfl | hrest
      · exact .inr ⟨i, List.mem_cons_self, rfl⟩
      · exact (mem_tailWords hrest).imp_right fun ⟨j, hj, hw⟩ => ⟨j, List.mem_cons_of_mem i hj, hw⟩

theorem Legal.notMem_words (h : p.Legal) {w : String} (hw : nameOfSpelling? w = none)
    (hne : w ≠ "::") : w ∉ p.words := by
  intro hmem
  obtain hcolons | ⟨i, hi, hname⟩ := mem_words hmem
  · exact hne hcolons
  · exact (h i hi).spelling_ne hw hname.symm

/-- A path is passed over by whatever stops at no name. -/
theorem Legal.clear (h : p.Legal) (hcolons : stop "::" = false)
    (hnames : ∀ i : Ident, i.Legal → stop i.spelling = false) : Clear stop p.words := by
  refine clear_of_forall fun w hw => ?_
  obtain rfl | ⟨i, hi, rfl⟩ := mem_words hw
  · exact ⟨by decide, hcolons⟩
  · exact ⟨(h i hi).plain, hnames i (h i hi)⟩

theorem Legal.nested (h : p.Legal) : Nested p.words := h.clear rfl fun _ _ => rfl

theorem Legal.clear_endsHeader (h : p.Legal) : Clear endsHeader p.words :=
  h.clear rfl fun _ hi => hi.not_endsHeader

/-- No word but a name or the mark of a path occurs in a path. -/
theorem Legal.clear_eq (h : p.Legal) {w : String} (hw : nameOfSpelling? w = none) (hne : w ≠ "::") :
    Clear (· = w) p.words :=
  h.clear (by simpa using hne.symm) fun _ hi => by simpa using hi.spelling_ne hw

end Path

/-! ## Implementations -/

namespace Implementation

/-- What is written before the body. -/
def header (i : Implementation) : List String :=
  written (attributeLexemes (ofWords ["automatically_derived"]) ++ .word "impl" ::
    i.trait.lexemes ++ i.argument.elim [] (fun a => between "<" ">" a.lexemes) ++
      .word "for" :: i.target.lexemes)

/-- What is written between the braces. -/
def body (i : Implementation) : List String := written (i.members.flatMap Member.lexemes)

/-- The words of the implementation. -/
def words (i : Implementation) : List String := written i.lexemes

theorem words_eq (i : Implementation) :
    i.words = i.header ++ "\x7b" :: (i.body ++ ["\x7d"]) := by
  simp [words, lexemes, header, body, braced]

/-- The implementation as a piece of a stream. -/
def piece (i : Implementation) : Piece := ⟨i.header, i.body⟩

/-- The names in front of the body are legal, and the body is nested. -/
structure Readable (i : Implementation) : Prop where
  trait : i.trait.Legal
  argument : ∀ a ∈ i.argument, a.Legal
  target : i.target.Legal
  body : Nested i.body

theorem Readable.clear_header {i : Implementation} (h : i.Readable) :
    Clear endsHeader i.header := by
  have htarget : reach endsHeader 0 i.target.words = some 0 := h.target.clear_endsHeader
  have htrait := h.trait.clear_endsHeader.reach_append
  rw [Clear, header]
  cases hargument : i.argument with
  | none => simp +decide [attributeLexemes, htrait, htarget]
  | some a =>
    have ha := (h.argument a hargument).clear_endsHeader.reach_append
    simp +decide [attributeLexemes, htrait, ha, htarget]

theorem pieces_flatMap_words {is : List Implementation} (h : ∀ i ∈ is, i.Readable) :
    pieces (is.flatMap words) = is.map piece := by
  induction is with
  | nil => simp
  | cons i rest ih =>
    obtain ⟨hi, hrest⟩ := List.forall_mem_cons.mp h
    simp [words_eq, pieces_braces hi.clear_header hi.body, piece, ← ih hrest]

end Implementation

/-! ## Modules -/

namespace Emitted

variable (e : Emitted)

/-- The words of all declarations. -/
def words : List String := written e.lexemes

/-- What is written before the body of the module. -/
def header : List String :=
  written (docLexemes e.doc ++ ofWords e.visibility ++ ofWords ["mod", e.module.spelling])

/-- What is written before the body of the enum of tags. -/
def enumHeader : List String :=
  written (docLexemes " The tags of the registry." ++
    deriveLexemes ["Debug", "Clone", "Copy", "PartialEq", "Eq", "Hash"] ++
    ofWords ["pub", "enum", "Tag"])

/-- A variant of the enum of tags, as it is written. -/
def entry (tag : Documented) : List String :=
  written (docLexemes tag.doc ++ ofWords [tag.ident.spelling])

/-- A marker as it is written. -/
def markerHeader (marker : Documented) : List String :=
  written (docLexemes marker.doc ++ deriveLexemes ["Debug", "Clone", "Copy", "Default"] ++
    ofWords ["pub", "struct", marker.ident.spelling])

/-- What is written between the braces of the enum of tags. -/
def enumBody : List String := e.tags.flatMap fun tag => entry tag ++ [","]

/-- What is written between the braces of the module. -/
def body : List String :=
  enumHeader ++ "\x7b" :: (e.enumBody ++ "\x7d" ::
    e.markers.flatMap fun marker => markerHeader marker ++ [";"])

theorem words_eq :
    e.words = e.header ++ "\x7b" :: (e.body ++ "\x7d" ::
      e.implementations.flatMap Implementation.words) := by
  have hwords : Implementation.words = fun i => written i.lexemes := rfl
  simp [words, lexemes, moduleLexemes, header, body, enumHeader, enumBody, entry, markerHeader,
    braced, hwords, List.flatMap_map]

/-- The declarations are pieces that are found again in their words. -/
structure Readable : Prop where
  visibility : IsVisibility e.visibility
  module : e.module.Legal
  tags : ∀ tag ∈ e.tags, tag.ident.Legal
  markers : ∀ marker ∈ e.markers, marker.ident.Legal
  implementations : ∀ i ∈ e.implementations, i.Readable

namespace Readable

variable {e} (h : e.Readable)

include h

theorem clear_header : Clear endsHeader e.header := by
  have hmodule := h.module.not_endsHeader
  simp +decide [Clear, header, docLexemes, attributeLexemes, plain_text, h.module.plain, hmodule,
    h.visibility.clear.reach_append]

theorem clear_markerHeader {marker : Documented} (hmarker : marker ∈ e.markers) :
    Clear endsHeader (markerHeader marker) := by
  have hname := h.markers marker hmarker
  simp +decide [Clear, markerHeader, docLexemes, deriveLexemes, attributeLexemes, parenthesized,
    separated, plain_text, hname.plain, hname.not_endsHeader]

theorem clear_entry {tag : Documented} (htag : tag ∈ e.tags) : Clear (· = ",") (entry tag) := by
  have hname := h.tags tag htag
  have hcomma : tag.ident.spelling ≠ "," := hname.spelling_ne (by decide)
  simp +decide [Clear, entry, docLexemes, attributeLexemes, plain_text, hname.plain, hcomma]

theorem nested_enumBody : Nested e.enumBody :=
  Clear.flatMap fun _ htag => Clear.append (h.clear_entry htag).nested rfl

theorem nested_body : Nested e.body := by
  have hmarkers : Nested (e.markers.flatMap fun marker => markerHeader marker ++ [";"]) :=
    Clear.flatMap fun _ hmarker => Clear.append (h.clear_markerHeader hmarker).nested rfl
  have henum : Nested enumHeader := by decide
  rw [Nested] at hmarkers ⊢
  rw [body, Clear.reach_append henum]
  simp +decide [h.nested_enumBody.reach_append, hmarkers]

/-- The declarations are a module and implementations. -/
theorem pieces_words :
    pieces e.words = ⟨e.header, e.body⟩ :: e.implementations.map Implementation.piece := by
  rw [words_eq, pieces_braces h.clear_header h.nested_body,
    Implementation.pieces_flatMap_words h.implementations]

/-- The module declares the enum of tags and markers. -/
theorem pieces_body :
    pieces e.body = ⟨enumHeader, e.enumBody⟩ ::
      e.markers.map fun marker => ⟨markerHeader marker, []⟩ := by
  have hmarkers : ∀ {markers : List Documented}, (∀ marker ∈ markers, marker ∈ e.markers) →
      pieces (markers.flatMap fun marker => markerHeader marker ++ [";"]) =
        markers.map fun marker => ⟨markerHeader marker, []⟩ := by
    intro markers hsub
    induction markers with
    | nil => simp
    | cons marker rest ih =>
      obtain ⟨hmarker, hrest⟩ := List.forall_mem_cons.mp hsub
      simp [pieces_semicolon (h.clear_markerHeader hmarker), ih hrest]
  rw [body, pieces_braces (by decide) h.nested_enumBody, hmarkers fun _ hm => hm]

theorem entries_enumBody : entries e.enumBody = e.tags.map entry :=
  entries_flatMap fun _ htag => h.clear_entry htag

end Readable

end Emitted

/-! ## Functions -/

/-- What is written before the body of a function. -/
def Function.header (f : Function) : List String :=
  written ((if f.lenient then allowLexemes else []) ++ ofWords ["fn", f.name] ++
    f.lifetime.elim [] (fun l => ofWords ["<", l, ">"]) ++
    parenthesized (separated (f.params.map Param.lexemes)) ++ .word "->" :: f.result.lexemes)

theorem Function.written_lexemes (f : Function) :
    written f.lexemes = f.header ++ "\x7b" :: (written f.body.lexemes ++ ["\x7d"]) := by
  simp [Function.lexemes, header, braced]

/-- The words of an arm. -/
def armWords (arm : MatchPattern × Expr) : List String :=
  written arm.1.lexemes ++ "=>" :: written arm.2.lexemes

theorem written_matchOn (subject : String) (as : List (MatchPattern × Expr)) :
    written (Body.matchOn subject as).lexemes =
      ["match", subject] ++ "\x7b" ::
        ((as.flatMap fun arm => armWords arm ++ [","]) ++ ["\x7d"]) := by
  simp [Body.lexemes, braced, List.flatMap_map, armWords]

/-- An arm whose pattern ends where it seems to end. -/
structure IsArm (arm : MatchPattern × Expr) : Prop where
  pattern_comma : Clear (· = ",") (written arm.1.lexemes)
  pattern_arrow : Clear (· = "=>") (written arm.1.lexemes)
  value_comma : Clear (· = ",") (written arm.2.lexemes)

section Arms

variable {subject : String} {as : List (MatchPattern × Expr)}

theorem IsArm.clear {arm : MatchPattern × Expr} (h : IsArm arm) :
    Clear (· = ",") (armWords arm) := by
  have hvalue := h.value_comma
  rw [Clear] at hvalue ⊢
  rw [armWords, h.pattern_comma.reach_append, reach_zero_plain (by decide) (by decide), hvalue]

theorem nested_matchOn (hsubject : Plain subject) (h : ∀ arm ∈ as, IsArm arm) :
    Nested (written (Body.matchOn subject as).lexemes) := by
  have harms : Nested (as.flatMap fun arm => armWords arm ++ [","]) :=
    Clear.flatMap fun arm harm => Clear.append (h arm harm).clear.nested rfl
  simp +decide [written_matchOn, Nested, hsubject, harms.reach_append]

end Arms

/-! ## Members -/

namespace Member

/-- What is written before the body of a member, or before its semicolon. -/
def header : Member → List String
  | type name t => written (ofWords ["type", name, "="] ++ t.lexemes)
  | const name t value =>
    written (ofWords ["const", name, ":"] ++ t.lexemes ++ .word "=" :: value.lexemes)
  | function f => f.header

/-- What is written between the braces of a member. -/
def body : Member → List String
  | function f => written f.body.lexemes
  | _ => []

/-- The member as a piece of a stream. -/
def piece (m : Member) : Piece := ⟨m.header, m.body⟩

/-- The member is a piece that is found again. -/
structure Readable (m : Member) : Prop where
  header : Clear endsHeader m.header
  body : Nested m.body

variable {m : Member} {ms : List Member}

/-- A member ends with a semicolon or with a body. -/
theorem written_lexemes (m : Member) :
    (m.body = [] ∧ written m.lexemes = m.header ++ [";"]) ∨
      written m.lexemes = m.header ++ "\x7b" :: (m.body ++ ["\x7d"]) := by
  cases m with
  | type name t => exact .inl ⟨rfl, by simp [lexemes, header]⟩
  | const name t value => exact .inl ⟨rfl, by simp [lexemes, header]⟩
  | function f => exact .inr f.written_lexemes

theorem Readable.pieces_append (h : m.Readable) (rest : List String) :
    pieces (written m.lexemes ++ rest) = m.piece :: pieces rest := by
  rcases m.written_lexemes with ⟨hbody, hwords⟩ | hwords
  · rw [hwords, List.append_assoc, List.singleton_append, pieces_semicolon h.header, piece, hbody]
  · rw [hwords, List.append_assoc, List.cons_append, List.append_assoc, List.singleton_append,
      pieces_braces h.header h.body, piece]

theorem Readable.nested (h : m.Readable) : Nested (written m.lexemes) := by
  have hheader := h.header.nested.reach_never 0
  rcases m.written_lexemes with ⟨-, hwords⟩ | hwords
  · rw [hwords, Nested, hheader]
    rfl
  · rw [hwords, Nested, hheader]
    simp +decide [h.body.reach_append]

/-- Members are read back one by one. -/
theorem pieces_members (h : ∀ m ∈ ms, m.Readable) :
    pieces (written (ms.flatMap lexemes)) = ms.map piece := by
  induction ms with
  | nil => simp
  | cons m rest ih =>
    obtain ⟨hm, hrest⟩ := List.forall_mem_cons.mp h
    rw [List.flatMap_cons, written_append, hm.pieces_append, ih hrest, List.map_cons]

theorem nested_members (h : ∀ m ∈ ms, m.Readable) : Nested (written (ms.flatMap lexemes)) := by
  rw [written_flatMap]
  exact Clear.flatMap fun m hm => (h m hm).nested

end Member

/-! ## Declarations -/

namespace Declaration

theorem legal_libraryPath : ∀ name ∈ ["Tag", "Matchable", "Registry", "Pattern", "Variant"],
    (libraryPath name).Legal := by
  decide

theorem legal_corePath : ∀ names ∈ [["option", "Option", "Some"], ["option", "Option", "None"],
    ["result", "Result", "Ok"], ["result", "Result", "Err"]], (corePath names).Legal := by
  decide

namespace WellFormed

variable {d : Declaration} (h : d.WellFormed) {w : Variant Words}

include h

theorem legal_of_mem_idents {i : Ident} (hi : i ∈ d.idents) : i.Legal := by
  obtain ⟨w, hw, rfl⟩ := List.mem_map.mp hi
  exact h.names w hw

theorem legal_self : d.self.Legal := List.forall_mem_singleton.mpr h.ident

theorem legal_tagEnum : d.tagEnum.Legal := by
  simp +decide [Path.Legal, tagEnum, h.module]

theorem legal_tagPath {i : Ident} (hi : i.Legal) : (d.tagPath i).Legal := by
  simp +decide [Path.Legal, tagPath, h.module, hi]

theorem legal_markerPath {i : Ident} (hi : i.Legal) : (d.markerPath i).Legal := by
  simp [Path.Legal, markerPath, h.module, hi]

theorem legal_variantPath {i : Ident} (hi : i.Legal) : (d.variantPath i).Legal := by
  simp [Path.Legal, variantPath, h.ident, hi]

attribute [local simp] Member.lexemes Function.lexemes Body.lexemes Expr.lexemes
  MatchPattern.lexemes Param.lexemes TypeExpr.lexemes attributeLexemes allowLexemes braced
  parenthesized separated rootedWords

theorem nested_patternImpl (hw : w ∈ d.registry.variants) : Nested (d.patternImpl w).body := by
  have hself := h.legal_self.nested.reach_never
  have htagEnum := h.legal_tagEnum.nested.reach_never
  have htag := (h.legal_tagPath (h.names w hw)).nested.reach_never
  have hvariant := (h.legal_variantPath (h.names w hw)).nested.reach_never
  have hcore := fun names hnames =>
    (legal_corePath names hnames).nested.reach_never
  simp only [List.forall_mem_cons] at hcore
  obtain ⟨hsome, hnone, hok, herr, -⟩ := hcore
  cases hfield : w.field with
  | none =>
    simp +decide [Implementation.body, patternImpl, payloadType, armPattern, hfield, Nested, hself,
      htagEnum, htag, hvariant, hsome, hnone, hok, herr]
  | some type =>
    have htype := (h.types w hw type hfield).reach_never
    simp +decide [Implementation.body, patternImpl, payloadType, armPattern, hfield, Nested, hself,
      htagEnum, htag, hvariant, hsome, hnone, hok, herr, htype]

theorem isArm_name {i : Ident} (hi : i ∈ d.idents) :
    IsArm (.path (d.tagPath i), .text i.spelling) where
  pattern_comma := (h.legal_tagPath (h.legal_of_mem_idents hi)).clear_eq (by decide) (by decide)
  pattern_arrow := (h.legal_tagPath (h.legal_of_mem_idents hi)).clear_eq (by decide) (by decide)
  value_comma := by
    have hcomma := text_ne i.spelling (w := ",") (by decide)
    simp [Clear, plain_text, hcomma]

theorem isArm_tag {i : Ident} (hi : i ∈ d.idents) :
    IsArm (.anyFields (d.variantPath i), .path (d.tagPath i)) where
  pattern_comma := by
    have hpath := (h.legal_variantPath (h.legal_of_mem_idents hi)).clear_eq (w := ",")
      (by decide) (by decide)
    simp +decide [Clear, hpath.reach_append]
  pattern_arrow := by
    have hpath := (h.legal_variantPath (h.legal_of_mem_idents hi)).clear_eq (w := "=>")
      (by decide) (by decide)
    simp +decide [Clear, hpath.reach_append]
  value_comma := (h.legal_tagPath (h.legal_of_mem_idents hi)).clear_eq (by decide) (by decide)

theorem readable_tagImpl_members : ∀ m ∈ d.tagImpl.members, m.Readable := by
  rw [tagImpl, List.forall_mem_singleton]
  refine ⟨rfl, nested_matchOn (by decide) ?_⟩
  rw [List.forall_mem_map]
  exact fun i hi => h.isArm_name hi

theorem readable_matchableImpl_members : ∀ m ∈ d.matchableImpl.members, m.Readable := by
  have htagEnum := h.legal_tagEnum.clear_endsHeader
  rw [Clear] at htagEnum
  rw [matchableImpl, List.forall_mem_cons, List.forall_mem_singleton]
  refine ⟨⟨?_, rfl⟩, ?_, nested_matchOn (by decide) ?_⟩
  · simp +decide [Clear, Member.header, htagEnum]
  · simp +decide [Clear, Member.header, Function.header, htagEnum]
  · rw [List.forall_mem_map]
    exact fun i hi => h.isArm_tag hi

theorem nested_tagPaths :
    Nested (written (separated (d.idents.map (Path.lexemes ∘ d.tagPath)))) := by
  refine nested_separated ?_
  rw [List.forall_mem_map]
  exact fun i hi => (h.legal_tagPath (h.legal_of_mem_idents hi)).nested

theorem readable_registryImpl_members : ∀ m ∈ d.registryImpl.members, m.Readable := by
  have hstr : (plainPath ["str"]).Legal := by decide
  rw [registryImpl, List.forall_mem_cons, List.forall_mem_singleton]
  refine ⟨⟨?_, rfl⟩, ?_, rfl⟩
  · have hheads : ∀ w ∈ [";", "\x7b"], w.toList.head? ≠ some '"' := by decide
    have hname := fun w hw => text_ne d.registry.ident.spelling (hheads w hw)
    simp only [List.forall_mem_cons] at hname
    simp +decide [Clear, Member.header, staticText, hstr.clear_endsHeader.reach_append, plain_text,
      endsHeader, hname]
  · simp +decide [Clear, Member.header, h.legal_tagEnum.nested.reach_append,
      h.nested_tagPaths.reach_append]

theorem readable_variantImpl_members (hw : w ∈ d.registry.variants) :
    ∀ m ∈ (d.variantImpl w).members, m.Readable := by
  have htag : reach endsHeader 0 (d.tagPath w.ident).words = some 0 :=
    (h.legal_tagPath (h.names w hw)).clear_endsHeader
  have hself : reach endsHeader 0 d.self.words = some 0 := h.legal_self.clear_endsHeader
  have hvariant := h.legal_variantPath (h.names w hw)
  rw [variantImpl, List.forall_mem_cons, List.forall_mem_singleton]
  refine ⟨⟨?_, rfl⟩, ?_, ?_⟩
  · simp +decide [Clear, Member.header, h.legal_tagEnum.clear_endsHeader.reach_append, htag]
  · cases hfield : w.field with
    | none => simp +decide [Clear, Member.header, Function.header, hself]
    | some type =>
      have htype := h.types w hw type hfield
      simp +decide [Clear, Member.header, Function.header, hself, htype.reach_append]
  · cases hfield : w.field with
    | none => exact hvariant.nested
    | some type => simp +decide [Member.body, Nested, hvariant.nested.reach_never]

/-- All declarations are pieces that are found again. -/
theorem readable_expand : d.expand.Readable where
  visibility := h.visibility
  module := h.module
  tags := by
    rw [expand_tags, List.forall_mem_map]
    exact fun i hi => h.legal_of_mem_idents hi
  markers := by
    rw [expand_markers, List.forall_mem_map]
    exact fun i hi => h.legal_of_mem_idents hi
  implementations := by
    have hnone : ∀ a ∈ (none : Option Path), a.Legal := fun _ ha => by cases ha
    have hself : ∀ a ∈ some d.self, a.Legal := by simpa using h.legal_self
    rw [expand_implementations, List.forall_mem_append, List.forall_mem_flatMap]
    refine ⟨?_, fun w hw => ?_⟩
    · simp only [List.forall_mem_cons]
      refine ⟨?_, ?_, ?_, by simp⟩
      · exact ⟨legal_libraryPath _ (by decide), hnone, h.legal_tagEnum,
          Member.nested_members h.readable_tagImpl_members⟩
      · exact ⟨legal_libraryPath _ (by decide), hnone, h.legal_self,
          Member.nested_members h.readable_matchableImpl_members⟩
      · exact ⟨legal_libraryPath _ (by decide), hnone, h.legal_self,
          Member.nested_members h.readable_registryImpl_members⟩
    · simp only [List.forall_mem_cons]
      refine ⟨?_, ?_, by simp⟩
      · exact ⟨legal_libraryPath _ (by decide), hself, h.legal_markerPath (h.names w hw),
          h.nested_patternImpl hw⟩
      · exact ⟨legal_libraryPath _ (by decide), hself, h.legal_markerPath (h.names w hw),
          Member.nested_members (h.readable_variantImpl_members hw)⟩

end WellFormed

end Declaration

end TagDispatch.Derive
