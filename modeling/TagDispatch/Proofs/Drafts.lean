import TagDispatch.Proofs.Checked

/-!
# Drafts that are built

A draft is declared tag by tag and then built. `SchemaDraft.firstRepeat?` reads the names once and
remembers those it has seen, so what it reports is the earliest name that stands before its own
place too: `SchemaDraft.firstRepeat?_eq_some_iff`. Where it reports nothing, no declaration hides
another one, and the schema finds under every name what stands at the place of that name.
-/

namespace TagDispatch

variable {C : Type} [TypeCode C]

/-- How a tag is declared: with a type of payload, or without a payload. -/
inductive TagDeclaration (C : Type) where
  | carrying (tag : String) (type : C)
  | empty (tag : String)

namespace TagDeclaration

/-- The declared tag. -/
def tag : TagDeclaration C → String
  | carrying tag _ | empty tag => tag

/-- The type that the tag is declared with. -/
def type : TagDeclaration C → C
  | carrying _ type => type
  | empty _ => TypeCode.unit

end TagDeclaration

namespace SchemaDraft

/-- The draft with one more declaration. -/
def add (draft : SchemaDraft C) : TagDeclaration C → SchemaDraft C
  | .carrying tag type => draft.declare tag type
  | .empty tag => draft.declareUnit tag

/-- The draft with a name and some declarations, made one after the other. -/
def ofDeclarations (name : String) (ds : List (TagDeclaration C)) : SchemaDraft C :=
  ds.foldl add { name }

theorem add_eq (draft : SchemaDraft C) (d : TagDeclaration C) :
    draft.add d = ⟨draft.name, draft.declarations ++ [(d.tag, d.type)]⟩ := by
  cases d <;> rfl

theorem foldl_add (draft : SchemaDraft C) (ds : List (TagDeclaration C)) :
    ds.foldl add draft =
      ⟨draft.name, draft.declarations ++ ds.map fun d => (d.tag, d.type)⟩ := by
  induction ds generalizing draft with
  | nil => simp
  | cons d rest ih => simp [ih, add_eq]

/-- Declarations stay as they are made and in the order they are made in. -/
theorem ofDeclarations_eq (name : String) (ds : List (TagDeclaration C)) :
    ofDeclarations name ds = ⟨name, ds.map fun d => (d.tag, d.type)⟩ :=
  foldl_add _ ds

/-! ## The first repeat -/

/-- The name at place `i` is in `seen` or stands at an earlier place. -/
def RepeatsAt (seen names : List String) (i : Nat) (name : String) : Prop :=
  names[i]? = some name ∧ (name ∈ seen ∨ name ∈ names.take i)

/-- Behind the first name all places are one higher, and that name counts as seen. -/
theorem repeatsAt_cons_succ {seen names : List String} {head name : String} {i : Nat} :
    RepeatsAt seen (head :: names) (i + 1) name ↔ RepeatsAt (head :: seen) names i name := by
  simp only [RepeatsAt, List.getElem?_cons_succ, List.take_succ_cons, List.mem_cons]
  grind

theorem repeatsAt_cons_zero {seen names : List String} {head name : String} :
    RepeatsAt seen (head :: names) 0 name ↔ head = name ∧ name ∈ seen := by
  simp [RepeatsAt]

/-- The name that is reported is the one at the least place where a name repeats. -/
theorem firstRepeat?_eq_some_iff {seen names : List String} {name : String} :
    firstRepeat? seen names = some name ↔
      ∃ i, RepeatsAt seen names i name ∧ ∀ j < i, ∀ earlier, ¬RepeatsAt seen names j earlier := by
  induction names generalizing seen with
  | nil => simp [firstRepeat?, RepeatsAt]
  | cons head rest ih =>
    rw [firstRepeat?]
    by_cases hseen : head ∈ seen
    · rw [if_pos hseen, Option.some.injEq]
      constructor
      · rintro rfl
        exact ⟨0, repeatsAt_cons_zero.mpr ⟨rfl, hseen⟩, fun j hj => absurd hj (Nat.not_lt_zero j)⟩
      · rintro ⟨i, hi, hleast⟩
        -- a later place is not the least one
        cases i with
        | zero => exact (repeatsAt_cons_zero.mp hi).1
        | succ i =>
          exact absurd (repeatsAt_cons_zero.mpr ⟨rfl, hseen⟩) (hleast 0 (Nat.succ_pos i) head)
    · rw [if_neg hseen, ih]
      have hzero : ∀ earlier, ¬RepeatsAt seen (head :: rest) 0 earlier := by
        intro earlier h
        obtain ⟨rfl, hmem⟩ := repeatsAt_cons_zero.mp h
        exact hseen hmem
      constructor
      · rintro ⟨i, hi, hleast⟩
        refine ⟨i + 1, repeatsAt_cons_succ.mpr hi, fun j hj earlier => ?_⟩
        cases j with
        | zero => exact hzero earlier
        | succ j =>
          rw [repeatsAt_cons_succ]
          exact hleast j (Nat.lt_of_succ_lt_succ hj) earlier
      · rintro ⟨i, hi, hleast⟩
        cases i with
        | zero => exact absurd hi (hzero name)
        | succ i =>
          refine ⟨i, repeatsAt_cons_succ.mp hi, fun j hj earlier => ?_⟩
          rw [← repeatsAt_cons_succ]
          exact hleast (j + 1) (Nat.succ_lt_succ hj) earlier

theorem repeatsAt_nil {names : List String} {i : Nat} {name : String} :
    RepeatsAt [] names i name ↔ names[i]? = some name ∧ name ∈ names.take i := by
  simp [RepeatsAt]

omit [TypeCode C] in
/-- A draft is refused for the name at the least place where a name repeats. -/
theorem build_eq_error_iff {draft : SchemaDraft C} {next : UInt64} {e : Error} :
    draft.build next = .error e ↔
      ∃ tag, firstRepeat? [] (draft.declarations.map (·.1)) = some tag ∧
        e = .duplicateTag draft.name tag := by
  unfold build
  cases firstRepeat? [] (draft.declarations.map (·.1)) with
  | none => simp
  | some tag => simp [eq_comm]

end SchemaDraft

/-- **Building.** A draft is built exactly if the declared tags are pairwise distinct, whatever
their types. It is refused for the tag at the least place where a tag stands that was declared
before, and the error names the schema too. The built schema lists the tags as they were declared,
has at every declared tag the tag and the type of that place, and has nothing under other names. -/
theorem SchemaDraft.build_declarations (name : String) (ds : List (TagDeclaration C))
    (next : UInt64) :
    ((∃ s next', (ofDeclarations name ds).build next = .ok (s, next')) ↔
      (ds.map TagDeclaration.tag).Nodup) ∧
    (∀ e, (ofDeclarations name ds).build next = .error e ↔
      ∃ i tag, ((ds.map TagDeclaration.tag)[i]? = some tag ∧
          tag ∈ (ds.map TagDeclaration.tag).take i) ∧
        (∀ j < i, ∀ earlier, (ds.map TagDeclaration.tag)[j]? = some earlier →
          earlier ∉ (ds.map TagDeclaration.tag).take j) ∧
        e = .duplicateTag name tag) ∧
    ∀ s next', (ofDeclarations name ds).build next = .ok (s, next') →
      (s.id = next ∧ s.name = name ∧ next' = next + 1) ∧
      (s.tags.map SchemaTag.name = ds.map TagDeclaration.tag ∧ s.tags.Nodup) ∧
      (∀ i (hi : i < ds.length), ∃ t, s.tags[i]? = some t ∧ s.tag? ds[i].tag = some t ∧
        s.type? ds[i].tag = some ds[i].type) ∧
      ∀ undeclared, undeclared ∉ ds.map TagDeclaration.tag →
        s.tag? undeclared = none ∧ s.type? undeclared = none := by
  have hnames : (ofDeclarations name ds).declarations.map (·.1) = ds.map TagDeclaration.tag := by
    rw [ofDeclarations_eq, List.map_map]
    rfl
  refine ⟨?_, fun e => ?_, fun s next' hbuild => ?_⟩
  · simp only [build_eq_ok_iff, hnames]
    constructor
    · rintro ⟨s, next', hnodup, -⟩
      exact hnodup
    · intro hnodup
      exact ⟨_, _, hnodup, rfl, rfl⟩
  · rw [build_eq_error_iff, hnames]
    simp only [firstRepeat?_eq_some_iff, repeatsAt_nil, not_and]
    rw [ofDeclarations_eq]
    constructor
    · rintro ⟨tag, ⟨i, hi, hleast⟩, rfl⟩
      exact ⟨i, tag, hi, hleast, rfl⟩
    · rintro ⟨i, tag, hi, hleast, rfl⟩
      exact ⟨tag, ⟨i, hi, hleast⟩, rfl⟩
  · obtain ⟨hnodup, hs, rfl⟩ := build_eq_ok_iff.mp hbuild
    rw [hnames] at hnodup
    rw [ofDeclarations_eq] at hs
    have hdeclared : s.declarations = ds.map fun d => (d.tag, d.type) := by rw [hs]
    have htags : s.tags.map SchemaTag.name = ds.map TagDeclaration.tag := by
      rw [Schema.tags, hdeclared, List.map_map, List.map_map]
      rfl
    have hdistinct : (s.declarations.map (·.1)).Nodup := by
      rw [hdeclared, List.map_map]
      exact hnodup
    refine ⟨⟨by rw [hs], by rw [hs], rfl⟩, ⟨htags, .of_map SchemaTag.name (htags ▸ hnodup)⟩,
      fun i hi => ?_, fun undeclared hundeclared => ?_⟩
    · have hmem : (ds[i].tag, ds[i].type) ∈ s.declarations := by
        rw [hdeclared]
        exact List.mem_map_of_mem (List.getElem_mem hi)
      have hfind := (Schema.find?_eq_some_iff hdistinct).mpr ⟨rfl, hmem⟩
      refine ⟨s.tagNamed ds[i].tag, ?_, ?_, ?_⟩
      · rw [Schema.tags, hdeclared, List.getElem?_map, List.getElem?_map,
          List.getElem?_eq_getElem hi]
        rfl
      · rw [Schema.tag?, hfind]
        rfl
      · rw [Schema.type?, hfind]
        rfl
    · have hnone : s.find? undeclared = none := by
        rw [Schema.find?_eq_none_iff, hdeclared]
        intro declared hmem
        obtain ⟨d, hd, heq⟩ := List.mem_map.mp hmem
        exact hundeclared (List.mem_map.mpr ⟨d, hd, (Prod.mk.inj heq).1⟩)
      rw [Schema.tag?, Schema.type?, hnone]
      exact ⟨rfl, rfl⟩

/-! ## Shapes -/

namespace Shapes

/-- Four tags, of which two are declared twice. -/
def repeated : List (TagDeclaration PayloadType) :=
  [.carrying "Circle" (.int .i64), .empty "Dot", .carrying "Dot" .char, .empty "Circle"]

theorem build_repeated_shapes :
    (SchemaDraft.ofDeclarations "Shape" repeated).build 7 = .error (.duplicateTag "Shape" "Dot") ∧
      ∃ s, (SchemaDraft.ofDeclarations "Shape" (repeated.take 2)).build 7 = .ok (s, 8) ∧
        s.type? "Dot" = some .unit ∧ s.type? "Square" = none := by
  obtain ⟨-, hrefused, -⟩ := SchemaDraft.build_declarations "Shape" repeated 7
  obtain ⟨hbuilt, -, hschema⟩ := SchemaDraft.build_declarations "Shape" (repeated.take 2) 7
  obtain ⟨s, next', hbuild⟩ := hbuilt.mpr (by decide)
  obtain ⟨⟨-, -, rfl⟩, -, hdeclared, hundeclared⟩ := hschema s next' hbuild
  obtain ⟨t, -, -, htype⟩ := hdeclared 1 (by decide)
  refine ⟨(hrefused _).mpr ⟨2, "Dot", ⟨by decide, by decide⟩, by decide, rfl⟩, s, hbuild, htype, ?_⟩
  exact (hundeclared "Square" (by decide)).2

end Shapes

end TagDispatch
