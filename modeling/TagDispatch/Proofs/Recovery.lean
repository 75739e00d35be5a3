import TagDispatch.Proofs.Splices

/-!
# Reading an expansion back

What a stream of words says about a registry, for readers that know the form of an expansion and no
names: the variants of the enum of tags, the markers, the arms that name tags and tell the tag of a
value, the list of all tags, the implementations for the markers, and the whole declaration.
-/

namespace TagDispatch.Derive

namespace WordStream

/-! ## Readers -/

/-- What follows the attribute at the beginning of a header. -/
def afterAttribute : List String → List String
  | "#" :: "[" :: rest => (cut closes 0 rest).2.tail
  | ws => ws

/-- The name that a piece declares, after a keyword at the end of its header. -/
def Piece.declares? (p : Piece) (keyword : String) : Option String :=
  match p.header.reverse with
  | name :: k :: _ => if k = keyword then some name else none
  | _ => none

/-- The trait that an implementation is for, its argument and the type that implements it. -/
structure Headline where
  trait : List String
  argument : List String
  target : List String

/-- Reads the header of an implementation. -/
def Piece.headline? (p : Piece) : Option Headline :=
  match afterAttribute p.header with
  | "impl" :: rest =>
    let subject := cut (· = "for") 0 rest
    let trait := cut (· = "<") 0 subject.1
    some ⟨trait.1, trait.2.tail.dropLast, subject.2.tail⟩
  | _ => none

/-- The declarations in the modules of a stream. -/
def declared (ws : List String) : List Piece :=
  ((pieces ws).filter fun p => (p.declares? "mod").isSome).flatMap fun p => pieces p.body

/-- The implementations of a trait of the library, in order. -/
def implementing (trait : String) (ws : List String) : List (Headline × List String) :=
  ((pieces ws).filterMap fun p => p.headline?.map fun h => (h, p.body)).filter fun i =>
    i.1.trait = (libraryPath trait).words

/-- The pieces of a body that begin with two given words. -/
def members (keyword name : String) (body : List String) : List Piece :=
  (pieces body).filter fun p => p.header.take 2 = [keyword, name]

/-- The arms of the matches in a body: what is matched and what comes of it. -/
def arms (body : List String) : List (List String × List String) :=
  (pieces body).flatMap fun p => (entries p.body).map fun arm =>
    let parts := cut (· = "=>") 0 arm
    (parts.1, parts.2.tail)

/-- The variants of the enum of tags. -/
def tagVariants (ws : List String) : List String :=
  ((declared ws).filter fun p => p.declares? "enum" = some "Tag").flatMap fun p =>
    (entries p.body).filterMap List.getLast?

/-- The markers. -/
def markers (ws : List String) : List String := (declared ws).filterMap (·.declares? "struct")

/-- The arms of the function that names tags. -/
def nameArms (ws : List String) : List (List String × List String) :=
  (implementing "Tag" ws).flatMap fun i => (members "fn" "name" i.2).flatMap fun f => arms f.body

/-- The arms of the function that tells the tag of a value. -/
def tagArms (ws : List String) : List (List String × List String) :=
  (implementing "Matchable" ws).flatMap fun i =>
    (members "fn" "tag" i.2).flatMap fun f => arms f.body

/-- The elements of a list that stands behind an equality sign. -/
def elements (header : List String) : List (List String) :=
  match (cut (· = "=") 0 header).2 with
  | "=" :: "&" :: "[" :: rest => entries (cut closes 0 rest).1
  | _ => []

/-- The list of all tags. -/
def allTags (ws : List String) : List (List String) :=
  (implementing "Registry" ws).flatMap fun i =>
    (members "const" "TAGS" i.2).flatMap fun c => elements c.header

/-- The type that the parameter of a function has, if it is a payload with a name. -/
def payloadOf? (header : List String) : Option Words :=
  match (cut closes 0 (header.drop 3)).1 with
  | "payload" :: ":" :: type => some type
  | _ => none

/-- The variants with their fields, as they are built from payloads. -/
def variants (ws : List String) : List (Variant Words) :=
  (implementing "Variant" ws).filterMap fun i => i.1.target.getLast?.map fun name =>
    ⟨identOfSpelling name, (members "fn" "inject" i.2).head?.bind fun f => payloadOf? f.header⟩

/-- The declaration that was expanded. -/
def declaration? (ws : List String) : Option Declaration := do
  let m ← (pieces ws).find? fun p => (p.declares? "mod").isSome
  let module ← m.declares? "mod"
  let registry ← (implementing "Registry" ws).head?
  let enum ← registry.1.target.head?
  pure ⟨(afterAttribute m.header).dropLast.dropLast, identOfSpelling module,
    ⟨identOfSpelling enum, variants ws⟩⟩

end WordStream

open WordStream

/-! ## Arms -/

/-- The arms of a match are read back. -/
theorem arms_matchOn (subject : String) {as : List (MatchPattern × Expr)}
    (hsubject : Clear endsHeader ["match", subject]) (h : ∀ arm ∈ as, IsArm arm) :
    arms (written (Body.matchOn subject as).lexemes) =
      as.map fun arm => (written arm.1.lexemes, written arm.2.lexemes) := by
  have hnested : Nested (as.flatMap fun arm => armWords arm ++ [","]) :=
    Clear.flatMap fun arm harm => Clear.append (h arm harm).clear.nested rfl
  rw [arms, written_matchOn, pieces_braces hsubject hnested, pieces_nil, List.flatMap_singleton,
    entries_flatMap fun arm harm => (h arm harm).clear, List.map_map]
  refine List.map_congr_left fun arm harm => ?_
  simp [armWords, (h arm harm).pattern_arrow.cut_eq]

/-! ## Headers -/

@[simp]
theorem libraryPath_words_inj {a b : String} :
    (libraryPath a).words = (libraryPath b).words ↔ a = b := by
  simp [libraryPath, plainPath, Path.words, Path.lexemes, Path.tailWords]

/-- The attribute at the beginning of a header is passed over. -/
theorem afterAttribute_eq {inner : List Lexeme} (h : Nested (written inner)) (rest : List String) :
    afterAttribute (written (attributeLexemes inner) ++ rest) = rest := by
  simp [attributeLexemes, afterAttribute, h.clear_closes.cut_eq (w := "]") (by decide)]

/-- A piece declares nothing after a keyword that is not in its header. -/
theorem declares?_eq_none {p : Piece} {keyword : String} (h : keyword ∉ p.header) :
    p.declares? keyword = none := by
  rw [Piece.declares?]
  split
  next name k rest heq =>
    have hk : k ∈ p.header := by
      rw [← List.mem_reverse, heq]
      simp
    have hne : k ≠ keyword := by
      rintro rfl
      exact h hk
    exact if_neg hne
  next => rfl

namespace Implementation

/-- What the header says. -/
def headline (i : Implementation) : Headline :=
  ⟨i.trait.words, i.argument.elim [] Path.words, i.target.words⟩

theorem Readable.headline?_piece {i : Implementation} (h : i.Readable) :
    i.piece.headline? = some i.headline := by
  have hfor : ∀ {p : Path}, p.Legal → Clear (· = "for") p.words := fun hp =>
    hp.clear_eq (by decide) (by decide)
  have htrait : Clear (· = "<") i.trait.words := h.trait.clear_eq (by decide) (by decide)
  have hnested : Nested (written (ofWords ["automatically_derived"])) := by decide
  have hafter : afterAttribute i.header = "impl" ::
      ((i.trait.words ++ i.argument.elim [] fun a => "<" :: (a.words ++ [">"])) ++
        "for" :: i.target.words) := by
    rw [header, List.append_assoc, List.append_assoc, written_append, afterAttribute_eq hnested]
    cases i.argument <;> simp
  have hsubject : Clear (· = "for")
      (i.trait.words ++ i.argument.elim [] fun a => "<" :: (a.words ++ [">"])) := by
    refine (hfor h.trait).append ?_
    cases hargument : i.argument with
    | none => rfl
    | some a =>
      simp +decide [Clear, (hfor (h.argument a hargument)).reach_append]
  have hcut := hsubject.cut_eq (w := "for") (by decide) i.target.words
  rw [Piece.headline?, piece, hafter]
  simp only [hcut, List.tail_cons, headline]
  cases i.argument with
  | none => simp [htrait.cut_self]
  | some a => simp [htrait.cut_eq]

/-- An implementation declares no module. -/
theorem Readable.declares?_mod {i : Implementation} (h : i.Readable) :
    i.piece.declares? "mod" = none := by
  have hmod : ∀ {p : Path}, p.Legal → "mod" ∉ p.words := fun hp =>
    hp.notMem_words (by decide) (by decide)
  refine declares?_eq_none ?_
  cases hargument : i.argument with
  | none => simp [piece, header, attributeLexemes, hargument, hmod h.trait, hmod h.target]
  | some a =>
    have ha := hmod (h.argument a hargument)
    simp [piece, header, attributeLexemes, hargument, hmod h.trait, ha, hmod h.target]

end Implementation

namespace Emitted

/-- The header of the module, without its documentation. -/
theorem afterAttribute_header (e : Emitted) :
    afterAttribute e.header = e.visibility ++ ["mod", e.module.spelling] := by
  have hdoc : Nested (written (ofWords ["doc", "="] ++ [.text e.doc])) := by
    simp +decide [Nested, plain_text]
  rw [header, docLexemes, List.append_assoc, written_append, afterAttribute_eq hdoc]
  simp

theorem declares?_module (e : Emitted) (body : List String) :
    (⟨e.header, body⟩ : Piece).declares? "mod" = some e.module.spelling := by
  simp [Piece.declares?, header]

namespace Readable

variable {e : Emitted} (h : e.Readable)

include h

theorem headline?_module (body : List String) : (⟨e.header, body⟩ : Piece).headline? = none := by
  have hvisibility := h.visibility
  rw [Piece.headline?, e.afterAttribute_header]
  generalize e.visibility = visibility at hvisibility
  cases hvisibility <;> rfl

/-- The implementations of a trait are found in order. -/
theorem implementing_words (trait : String) :
    implementing trait e.words =
      (e.implementations.filter fun i => i.trait.words = (libraryPath trait).words).map
        fun i => (i.headline, i.body) := by
  have hread : (e.implementations.map Implementation.piece).filterMap
      (fun p => p.headline?.map fun l => (l, p.body)) =
        e.implementations.map fun i => (i.headline, i.body) := by
    rw [List.filterMap_map, ← List.filterMap_eq_map]
    refine List.filterMap_congr fun i hi => ?_
    rw [Function.comp_apply, (h.implementations i hi).headline?_piece]
    rfl
  rw [implementing, h.pieces_words, List.filterMap_cons_none (by rw [h.headline?_module]; rfl),
    hread, List.filter_map]
  rfl

/-- What the module declares is found in the stream. -/
theorem declared_words : declared e.words = pieces e.body := by
  have hothers : ∀ i ∈ e.implementations, i.piece.declares? "mod" = none :=
    fun i hi => (h.implementations i hi).declares?_mod
  have hfilter : (e.implementations.map Implementation.piece).filter
      (fun p => (p.declares? "mod").isSome) = [] := by
    rw [List.filter_eq_nil_iff, List.forall_mem_map]
    intro i hi
    simp [hothers i hi]
  rw [declared, h.pieces_words, List.filter_cons_of_pos (by simp [e.declares?_module]), hfilter,
    List.flatMap_singleton]

theorem tagVariants_words : tagVariants e.words = e.tags.map fun tag => tag.ident.spelling := by
  have hlast : ∀ tag : Documented, (entry tag).getLast? = some tag.ident.spelling := fun tag => by
    simp [entry]
  have hmarkers : (e.markers.map fun marker => (⟨markerHeader marker, []⟩ : Piece)).filter
      (fun p => p.declares? "enum" = some "Tag") = [] := by
    rw [List.filter_eq_nil_iff, List.forall_mem_map]
    intro marker _
    simp [Piece.declares?, markerHeader]
  have henum : (⟨enumHeader, e.enumBody⟩ : Piece).declares? "enum" = some "Tag" := rfl
  rw [tagVariants, h.declared_words, h.pieces_body, List.filter_cons_of_pos (by simp [henum]),
    hmarkers, List.flatMap_singleton, h.entries_enumBody, List.filterMap_map,
    ← List.filterMap_eq_map]
  exact List.filterMap_congr fun tag _ => hlast tag

theorem markers_words :
    WordStream.markers e.words = e.markers.map fun marker => marker.ident.spelling := by
  rw [WordStream.markers, h.declared_words, h.pieces_body, List.filterMap_cons_none rfl,
    List.filterMap_map,
    ← List.filterMap_eq_map]
  refine List.filterMap_congr fun marker _ => ?_
  simp [Piece.declares?, markerHeader]

end Readable

end Emitted

/-! ## What an expansion says -/

namespace Declaration

section Traits

variable (d : Declaration) (w : Variant Words)

theorem trait_tagImpl : d.tagImpl.trait.words = (libraryPath "Tag").words := rfl

theorem trait_matchableImpl : d.matchableImpl.trait.words = (libraryPath "Matchable").words := rfl

theorem trait_registryImpl : d.registryImpl.trait.words = (libraryPath "Registry").words := rfl

theorem trait_patternImpl : (d.patternImpl w).trait.words = (libraryPath "Pattern").words := rfl

theorem trait_variantImpl : (d.variantImpl w).trait.words = (libraryPath "Variant").words := rfl

end Traits

namespace WellFormed

variable {d : Declaration} (h : d.WellFormed) {w : Variant Words}

include h

section Implementing

attribute [local simp] trait_tagImpl trait_matchableImpl trait_registryImpl trait_patternImpl
  trait_variantImpl expand_implementations List.filter_cons List.filter_flatMap

theorem implementing_tag :
    implementing "Tag" d.expand.words = [(d.tagImpl.headline, d.tagImpl.body)] := by
  simp [h.readable_expand.implementing_words]

theorem implementing_matchable :
    implementing "Matchable" d.expand.words =
      [(d.matchableImpl.headline, d.matchableImpl.body)] := by
  simp [h.readable_expand.implementing_words]

theorem implementing_registry :
    implementing "Registry" d.expand.words = [(d.registryImpl.headline, d.registryImpl.body)] := by
  simp [h.readable_expand.implementing_words]

theorem implementing_pattern :
    implementing "Pattern" d.expand.words =
      d.registry.variants.map fun w => ((d.patternImpl w).headline, (d.patternImpl w).body) := by
  simp [h.readable_expand.implementing_words, ← List.map_eq_flatMap]

theorem implementing_variant :
    implementing "Variant" d.expand.words =
      d.registry.variants.map fun w => ((d.variantImpl w).headline, (d.variantImpl w).body) := by
  simp [h.readable_expand.implementing_words, ← List.map_eq_flatMap]

end Implementing

theorem nameArms_words :
    nameArms d.expand.words = d.idents.map fun i =>
      ((d.tagPath i).words, [Lexeme.spelling (.text i.spelling)]) := by
  have hname : members "fn" "name" d.tagImpl.body = d.tagImpl.members.map Member.piece := by
    rw [members, Implementation.body, Member.pieces_members h.readable_tagImpl_members]
    rfl
  have harms := arms_matchOn "self" (by decide)
    (List.forall_mem_map.mpr fun i hi => h.isArm_name (i := i) hi)
  rw [nameArms, h.implementing_tag, List.flatMap_singleton, hname, tagImpl, List.map_singleton,
    List.flatMap_singleton, Member.piece, Member.body, harms, List.map_map]
  rfl

theorem tagArms_words :
    tagArms d.expand.words = d.idents.map fun i =>
      ((d.variantPath i).words ++ ["\x7b", "..", "\x7d"], (d.tagPath i).words) := by
  have htag : members "fn" "tag" d.matchableImpl.body =
      d.matchableImpl.members.tail.map Member.piece := by
    rw [members, Implementation.body, Member.pieces_members h.readable_matchableImpl_members]
    rfl
  have harms := arms_matchOn "self" (by decide)
    (List.forall_mem_map.mpr fun i hi => h.isArm_tag (i := i) hi)
  rw [tagArms, h.implementing_matchable, List.flatMap_singleton, htag, matchableImpl,
    List.tail_cons, List.map_singleton, List.flatMap_singleton, Member.piece, Member.body, harms,
    List.map_map]
  refine List.map_congr_left fun i _ => ?_
  simp [MatchPattern.lexemes, Expr.lexemes, braced]

theorem allTags_words : allTags d.expand.words = d.idents.map fun i => (d.tagPath i).words := by
  have htags : members "const" "TAGS" d.registryImpl.body =
      d.registryImpl.members.tail.map Member.piece := by
    rw [members, Implementation.body, Member.pieces_members h.readable_registryImpl_members]
    rfl
  have hentries : entries (written (separated (d.idents.map (Path.lexemes ∘ d.tagPath)))) =
      d.idents.map fun i => (d.tagPath i).words := by
    rw [entries_separated, List.map_map]
    · rfl
    · rw [List.forall_mem_map]
      intro i hi
      have hpath := h.legal_tagPath (h.legal_of_mem_idents hi)
      exact ⟨hpath.clear_eq (by decide) (by decide), by simp [tagPath, Path.lexemes]⟩
  have htype : Clear (· = "=") ("const" :: "TAGS" :: ":" :: "&" :: "'static" :: "[" ::
      (d.tagEnum.words ++ ["]"])) := by
    simp +decide [Clear, h.legal_tagEnum.nested.reach_append]
  have hheader : (Member.const "TAGS" (.ref "'static" (.slice (.path d.tagEnum)))
      (.ref (.paths (d.idents.map d.tagPath)))).header =
        "const" :: "TAGS" :: ":" :: "&" :: "'static" :: "[" :: (d.tagEnum.words ++ ["]"]) ++
          "=" :: "&" :: "[" ::
            (written (separated (d.idents.map (Path.lexemes ∘ d.tagPath))) ++ ["]"]) := by
    simp [Member.header, TypeExpr.lexemes, Expr.lexemes]
  rw [allTags, h.implementing_registry, List.flatMap_singleton, htags, registryImpl,
    List.tail_cons, List.map_singleton, List.flatMap_singleton, Member.piece, hheader, elements,
    htype.cut_eq (by decide), ← hentries]
  simp [h.nested_tagPaths.clear_closes.cut_eq (w := "]") (by decide)]

omit h in
/-- What is written before the body of the function that builds a variant. -/
theorem header_inject (field : Option Words) (body : Body) :
    (Member.function {
      name := "inject"
      params := [field.elim .unit fun type => .named "payload" (.words type)]
      result := .path d.self
      body }).header =
    "fn" :: "inject" :: "(" ::
      (field.elim ["(", ")", ":", "(", ")"] (fun type => "payload" :: ":" :: type) ++
        ")" :: "->" :: d.self.words) := by
  cases field <;> simp [Member.header, Function.header, Param.lexemes, TypeExpr.lexemes,
    parenthesized, separated]

/-- A unit variant is told from one with a field by the parameter that builds it. -/
theorem payloadOf?_inject (hw : w ∈ d.registry.variants) :
    (members "fn" "inject" (d.variantImpl w).body).head?.bind (fun f => payloadOf? f.header) =
      w.field := by
  have hinject : members "fn" "inject" (d.variantImpl w).body =
      (d.variantImpl w).members.tail.map Member.piece := by
    rw [members, Implementation.body, Member.pieces_members (h.readable_variantImpl_members hw)]
    rfl
  have hparam : Nested
      (w.field.elim ["(", ")", ":", "(", ")"] fun type => "payload" :: ":" :: type) := by
    cases hfield : w.field with
    | none => decide
    | some type => simpa +decide [Nested] using h.types w hw type hfield
  rw [hinject, variantImpl, List.tail_cons, List.map_singleton, List.head?_cons, Option.bind_some,
    Member.piece, header_inject, payloadOf?, List.drop_succ_cons, List.drop_succ_cons,
    List.drop_succ_cons, List.drop_zero, hparam.clear_closes.cut_eq (by decide)]
  cases w.field <;> simp

/-- The variants are read back with their fields. -/
theorem variants_words : variants d.expand.words = d.registry.variants := by
  have hread : ∀ w ∈ d.registry.variants,
      ((d.variantImpl w).headline.target.getLast?.map fun name => (⟨identOfSpelling name,
        (members "fn" "inject" (d.variantImpl w).body).head?.bind fun f => payloadOf? f.header⟩ :
          Variant Words)) = some w := by
    intro w hw
    have hlast : (d.variantImpl w).headline.target.getLast? = some w.ident.spelling := by
      simp [variantImpl, Implementation.headline, markerPath, Path.words, Path.lexemes,
        Path.tailWords]
    rw [hlast, Option.map_some, h.payloadOf?_inject hw, (h.names w hw).identOfSpelling_eq]
  rw [variants, h.implementing_variant, List.filterMap_map]
  exact (List.filterMap_congr hread).trans List.filterMap_some

/-- Everything that the declaration says is read back. -/
theorem declaration?_words : declaration? d.expand.words = some d := by
  have hmodule : (pieces d.expand.words).find? (fun p => (p.declares? "mod").isSome) =
      some ⟨d.expand.header, d.expand.body⟩ := by
    rw [h.readable_expand.pieces_words]
    exact List.find?_cons_of_pos (by simp [d.expand.declares?_module])
  have hvisibility : (afterAttribute d.expand.header).dropLast.dropLast = d.visibility := by
    rw [d.expand.afterAttribute_header]
    show (d.visibility ++ ["mod", d.module.spelling]).dropLast.dropLast = d.visibility
    simp
  have hmod := d.expand.declares?_module d.expand.body
  have henum : d.registryImpl.headline.target.head? = some d.registry.ident.spelling := by
    simp [registryImpl, Implementation.headline, self, Path.words, Path.lexemes, Path.tailWords]
  have hident : identOfSpelling d.expand.module.spelling = d.module := h.module.identOfSpelling_eq
  simp [declaration?, hmodule, hmod, h.implementing_registry, henum, hvisibility, hident,
    h.ident.identOfSpelling_eq, h.variants_words]

end WellFormed

/-! ## The declaration is recovered -/

/-- What is read from a stream of words is what a declaration says: all variants in their order, and
each of them in its own place. -/
structure IsReadFrom (d : Declaration) (ws : List String) : Prop where
  tagVariants : tagVariants ws = d.idents.map Ident.spelling
  markers : markers ws = d.idents.map Ident.spelling
  nameArms : nameArms ws = d.idents.map fun i =>
    ((d.tagPath i).words, [Lexeme.spelling (.text i.spelling)])
  tagArms : tagArms ws = d.idents.map fun i =>
    ((d.variantPath i).words ++ ["\x7b", "..", "\x7d"], (d.tagPath i).words)
  allTags : allTags ws = d.idents.map fun i => (d.tagPath i).words
  patterns : implementing "Pattern" ws = d.registry.variants.map fun w =>
    (⟨(libraryPath "Pattern").words, d.self.words, (d.markerPath w.ident).words⟩,
      (d.patternImpl w).body)
  constructors : implementing "Variant" ws = d.registry.variants.map fun w =>
    (⟨(libraryPath "Variant").words, d.self.words, (d.markerPath w.ident).words⟩,
      (d.variantImpl w).body)
  declaration : declaration? ws = some d

theorem WellFormed.isReadFrom {d : Declaration} (h : d.WellFormed) :
    d.IsReadFrom d.expand.words where
  tagVariants := by
    rw [h.readable_expand.tagVariants_words, expand_tags, List.map_map]
    rfl
  markers := by
    rw [h.readable_expand.markers_words, expand_markers, List.map_map]
    rfl
  nameArms := h.nameArms_words
  tagArms := h.tagArms_words
  allTags := h.allTags_words
  patterns := h.implementing_pattern
  constructors := h.implementing_variant
  declaration := h.declaration?_words

/-- **Nothing is lost.** Take the declaration of an accepted item. From the words of its expansion
every reader gets the variants of the item, in their order, and the whole declaration is read back.
So two items with the same expansion have the same declaration. What is emitted for the marker of a
variant takes the type of its field into gaps, and outside of these its paths of several names are
those of the variant itself and of the enum of tags. -/
theorem expansion_read_back {item : Item} {d : Declaration} (hd : Declaration.ofItem item = .ok d)
    (h : item.WellFormed) :
    d.idents = item.variants.map ItemVariant.ident ∧
    d.IsReadFrom d.expand.words ∧
    (∀ w ∈ d.registry.variants, ∀ emitted ∈ [d.patternImpl, d.variantImpl],
      fill (w.field.getD []) (emitted (gapped w)).words = (emitted w).words ∧
      ∀ p ∈ paths false (emitted (gapped w)).words, p ∈ d.ownPaths w) ∧
    ∀ item' d', Declaration.ofItem item' = .ok d' → item'.WellFormed →
      d'.expand.words = d.expand.words → d' = d := by
  have hwell := h.declaration hd
  refine ⟨?_, hwell.isReadFrom, fun w hw => ?_, fun item' d' hd' h' hwords => ?_⟩
  · rw [(Item.declares_iff.mp hd).variants, List.map_map]
    rfl
  · rw [List.forall_mem_cons, List.forall_mem_singleton]
    exact ⟨⟨hwell.fill_patternImpl hw, hwell.paths_patternImpl hw⟩,
      hwell.fill_variantImpl hw, hwell.paths_variantImpl hw⟩
  · -- both declarations are read from the same words
    have hread' := (h'.declaration hd').declaration?_words
    rw [hwords, hwell.declaration?_words] at hread'
    exact (Option.some.inj hread').symm

end Declaration

/-! ## Parcels -/

namespace Parcels

/-- An enum with a field of the unit type, or with a unit variant in its place. -/
def item (empty : Fields) : Item where
  kind := .enum
  ident := ⟨"Parcel", false⟩
  visibility := ["pub", "(", "crate", ")"]
  generic := false
  attributes := [⟨[.ident ⟨"tagmatch", false⟩], .list (moduleItem false ⟨"parcels", false⟩)⟩]
  variants := [⟨⟨"Pair", false⟩, .unnamed [["(", "u8", ",", "u8", ")"]]⟩, ⟨⟨"Empty", false⟩, empty⟩]

def declaration (empty : Option Words) : Declaration where
  visibility := ["pub", "(", "crate", ")"]
  module := ⟨"parcels", false⟩
  registry := ⟨⟨"Parcel", false⟩,
    [⟨⟨"Pair", false⟩, some ["(", "u8", ",", "u8", ")"]⟩, ⟨⟨"Empty", false⟩, empty⟩]⟩

theorem ofItem_field :
    Declaration.ofItem (item (.unnamed [["(", ")"]])) = .ok (declaration (some ["(", ")"])) := by
  decide +kernel

theorem ofItem_unit : Declaration.ofItem (item .unit) = .ok (declaration none) := by
  decide +kernel

theorem wellFormed_item {empty : Fields}
    (hempty : ∀ types, empty = .unnamed types → ∀ type ∈ types, Nested type) :
    (item empty).WellFormed where
  visibility := .within (by decide : Nested ["crate"])
  ident := (by decide : Ident.Legal ⟨"Parcel", false⟩)
  names := by
    simp only [item, List.forall_mem_cons]
    exact ⟨by decide, by decide, by simp⟩
  types := by
    simp only [item, List.forall_mem_cons]
    refine ⟨fun types htypes => ?_, hempty, by simp⟩
    obtain rfl := Fields.unnamed.inj htypes
    exact List.forall_mem_singleton.mpr (by decide)
  attributes := by
    simp +decide [item, moduleItem]

/-- A unit variant is not a variant with a field of the unit type. -/
theorem parcels_read_back :
    tagVariants (declaration (some ["(", ")"])).expand.words = ["Pair", "Empty"] ∧
      declaration? (declaration (some ["(", ")"])).expand.words =
        some (declaration (some ["(", ")"])) ∧
      (declaration none).expand.words ≠ (declaration (some ["(", ")"])).expand.words := by
  have hfield : (item (.unnamed [["(", ")"]])).WellFormed := by
    refine wellFormed_item fun types htypes => ?_
    obtain rfl := Fields.unnamed.inj htypes
    exact List.forall_mem_singleton.mpr (by decide)
  obtain ⟨-, hread, -, hunique⟩ := Declaration.expansion_read_back ofItem_field hfield
  refine ⟨hread.tagVariants, hread.declaration, fun hwords => ?_⟩
  have hsame := hunique _ _ ofItem_unit (wellFormed_item (by simp)) hwords
  revert hsame
  decide

end Parcels

end TagDispatch.Derive
