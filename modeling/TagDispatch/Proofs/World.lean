import Mathlib.Algebra.Group.Nat.Defs
import Mathlib.Data.List.Induction
import TagDispatch.Proofs.Declarations

/-!
# Worlds of schemas

A world is what a program on schemas has made so far: its drafts, the schemas it built or copied,
and their values and patterns. Each of these is traced to the build it goes back to, so that schemas
of one build can be told from schemas that merely look alike.

`World.Consistent` is what every world keeps: builds have the identities that the counter gave them,
copies are what was built, and tags and types of values and patterns are those declared in the
build they go back to. `World.consistent_step` is the step and `World.consistent_after` the run.
-/

namespace TagDispatch

/-- Something that goes back to a build, and the number of that build. -/
structure Traced (α : Type) where
  origin : Nat
  item : α

/-- What a program on schemas has made; `built` lists its builds, which number the origins. -/
structure World (C : Type) [TypeCode C] where
  next : UInt64 := 0
  drafts : List (SchemaDraft C) := []
  built : List (Schema C) := []
  schemas : List (Traced (Schema C)) := []
  values : List (Traced (SchemaValue C)) := []
  patterns : List (Traced (SchemaPattern C)) := []

/-- A step of a program on schemas. Drafts and schemas are given by their places in the world. -/
inductive SchemaStep (C : Type) [TypeCode C] where
  /-- Begins a draft. -/
  | draft (name : String)
  /-- Declares a tag in a draft. -/
  | declare (draft : Nat) (tag : String) (type : C)
  /-- Declares a tag that carries nothing. -/
  | declareUnit (draft : Nat) (tag : String)
  /-- Builds a draft, which is used up whether or not that succeeds. -/
  | build (draft : Nat)
  /-- Copies a schema. -/
  | copy (schema : Nat)
  /-- Makes a value. -/
  | value (schema : Nat) (name : String) (type : C) (payload : TypeCode.Val type)
  /-- Makes a pattern. -/
  | pattern (schema : Nat) (name : String) (type : C)

namespace World

variable {C : Type} [DecidableEq C] [TypeCode C]

omit [DecidableEq C] in
/-- The world after one more build, and the identity of the next. -/
def addBuilt (w : World C) (s : Schema C) (next : UInt64) : World C :=
  { w with
    next
    built := w.built ++ [s]
    schemas := w.schemas ++ [⟨w.built.length, s⟩] }

/-- The world after a step; a step that is refused or has nothing to work on makes nothing. -/
def step (w : World C) : SchemaStep C → World C
  | .draft name => { w with drafts := w.drafts ++ [{ name }] }
  | .declare i tag type => { w with drafts := w.drafts.modify i (·.declare tag type) }
  | .declareUnit i tag => { w with drafts := w.drafts.modify i (·.declareUnit tag) }
  | .build i =>
    match w.drafts[i]? with
    | none => w
    | some draft =>
      match draft.build w.next with
      | .ok (s, next) => { w.addBuilt s next with drafts := w.drafts.eraseIdx i }
      | .error _ => { w with drafts := w.drafts.eraseIdx i }
  | .copy i =>
    match w.schemas[i]? with
    | none => w
    | some s => { w with schemas := w.schemas ++ [s] }
  | .value i name type payload =>
    match w.schemas[i]? with
    | none => w
    | some s =>
      match s.item.value name type payload with
      | .ok v => { w with values := w.values ++ [⟨s.origin, v⟩] }
      | .error _ => w
  | .pattern i name type =>
    match w.schemas[i]? with
    | none => w
    | some s =>
      match s.item.pattern name type with
      | .ok p => { w with patterns := w.patterns ++ [⟨s.origin, p⟩] }
      | .error _ => w

/-- The world after some steps from the empty one. -/
def after (steps : List (SchemaStep C)) : World C := steps.foldl step {}

omit [DecidableEq C] in
/-- The build with the number declares the tag with the type. -/
def Declares (w : World C) (n : Nat) (t : SchemaTag) (type : C) : Prop :=
  ∃ s, w.built[n]? = some s ∧ s.find? t.name = some (t, type)

/-- What every world keeps. -/
structure Consistent (w : World C) : Prop where
  next_eq : w.next = UInt64.ofNat w.built.length
  id_eq : ∀ n s, w.built[n]? = some s → s.id = UInt64.ofNat n
  names_nodup : ∀ s ∈ w.built, (s.declarations.map (·.1)).Nodup
  schema_eq : ∀ s ∈ w.schemas, w.built[s.origin]? = some s.item
  value_declared : ∀ v ∈ w.values, w.Declares v.origin v.item.tag v.item.type
  pattern_declared : ∀ p ∈ w.patterns, w.Declares p.origin p.item.tag p.item.type

/-! ## Steps keep a world consistent -/

section Step

variable {w : World C}

omit [DecidableEq C] in
/-- Later builds do not touch the declarations of earlier ones. -/
theorem Declares.of_append {w' : World C} {later : List (Schema C)}
    (hbuilt : w'.built = w.built ++ later) {n : Nat} {t : SchemaTag} {type : C}
    (h : w.Declares n t type) : w'.Declares n t type := by
  obtain ⟨s, hs, hfind⟩ := h
  have hn : n < w.built.length := (List.getElem?_eq_some_iff.mp hs).1
  exact ⟨s, by rw [hbuilt, List.getElem?_append_left hn, hs], hfind⟩

omit [DecidableEq C] in
theorem consistent_empty : ({} : World C).Consistent where
  next_eq := rfl
  id_eq := by simp
  names_nodup := by simp
  schema_eq := by simp
  value_declared := by simp
  pattern_declared := by simp

omit [DecidableEq C] in
theorem Consistent.setDrafts (h : w.Consistent) (drafts : List (SchemaDraft C)) :
    ({ w with drafts } : World C).Consistent := { h with }

omit [DecidableEq C] in
/-- A build takes the next identity, which is the number of the build. -/
theorem Consistent.addBuilt (h : w.Consistent) {s : Schema C} (hid : s.id = w.next)
    (hnodup : (s.declarations.map (·.1)).Nodup) :
    (w.addBuilt s (w.next + 1)).Consistent where
  next_eq := by
    show w.next + 1 = UInt64.ofNat (w.built ++ [s]).length
    rw [List.length_append, List.length_singleton, UInt64.ofNat_add, h.next_eq]
    rfl
  id_eq n s' hs' := by
    change (w.built ++ [s])[n]? = some s' at hs'
    -- the new build stands behind all earlier ones
    rcases Nat.lt_or_ge n w.built.length with hn | hn
    · rw [List.getElem?_append_left hn] at hs'
      exact h.id_eq n s' hs'
    · rw [List.getElem?_append_right hn] at hs'
      obtain ⟨hzero, hs'⟩ := List.getElem?_eq_some_iff.mp hs'
      rw [List.length_singleton] at hzero
      have hlast : n = w.built.length := by omega
      rw [← hs', List.getElem_singleton, hid, h.next_eq, hlast]
  names_nodup := by
    refine List.forall_mem_append.mpr ⟨h.names_nodup, ?_⟩
    exact List.forall_mem_singleton.mpr hnodup
  schema_eq s' hs' := by
    -- the number of an earlier build still finds it, and the last number finds the new one
    rcases List.mem_append.mp hs' with hs' | hs'
    · have heq := h.schema_eq s' hs'
      show (w.built ++ [s])[s'.origin]? = some s'.item
      rw [List.getElem?_append_left (List.getElem?_eq_some_iff.mp heq).1, heq]
    · rw [List.mem_singleton.mp hs']
      exact List.getElem?_concat_length
  value_declared v hv := (h.value_declared v hv).of_append rfl
  pattern_declared p hp := (h.pattern_declared p hp).of_append rfl

omit [DecidableEq C] in
theorem Consistent.addCopy (h : w.Consistent) {s : Traced (Schema C)} (hs : s ∈ w.schemas) :
    ({ w with schemas := w.schemas ++ [s] } : World C).Consistent :=
  { h with
    schema_eq := by
      refine List.forall_mem_append.mpr ⟨h.schema_eq, ?_⟩
      exact List.forall_mem_singleton.mpr (h.schema_eq s hs) }

omit [DecidableEq C] in
theorem Consistent.addValue (h : w.Consistent) {v : Traced (SchemaValue C)}
    (hv : w.Declares v.origin v.item.tag v.item.type) :
    ({ w with values := w.values ++ [v] } : World C).Consistent :=
  { h with
    value_declared := by
      refine List.forall_mem_append.mpr ⟨h.value_declared, ?_⟩
      exact List.forall_mem_singleton.mpr hv }

omit [DecidableEq C] in
theorem Consistent.addPattern (h : w.Consistent) {p : Traced (SchemaPattern C)}
    (hp : w.Declares p.origin p.item.tag p.item.type) :
    ({ w with patterns := w.patterns ++ [p] } : World C).Consistent :=
  { h with
    pattern_declared := by
      refine List.forall_mem_append.mpr ⟨h.pattern_declared, ?_⟩
      exact List.forall_mem_singleton.mpr hp }

omit [DecidableEq C] in
/-- What a schema of the world finds is declared by the build that it goes back to. -/
theorem Consistent.declares_of_find? (h : w.Consistent) {s : Traced (Schema C)}
    (hs : s ∈ w.schemas) {name : String} {t : SchemaTag} {type : C}
    (hfind : s.item.find? name = some (t, type)) : w.Declares s.origin t type := by
  have hname : t.name = name := by rw [Schema.tag_of_find? hfind, Schema.tagNamed]
  exact ⟨s.item, h.schema_eq s hs, by rw [hname, hfind]⟩

/-- Every step keeps a world consistent. -/
theorem consistent_step (h : w.Consistent) (step : SchemaStep C) : (w.step step).Consistent := by
  cases step with
  | draft name => exact h.setDrafts _
  | declare i tag type => exact h.setDrafts _
  | declareUnit i tag => exact h.setDrafts _
  | build i =>
    rw [World.step]
    split
    · exact h
    · next draft hdraft =>
      split
      · next s next hbuild =>
        -- a draft that is built has no repeated name and takes the identity at hand
        obtain ⟨hnodup, rfl, rfl⟩ := SchemaDraft.build_eq_ok_iff.mp hbuild
        exact (h.addBuilt rfl hnodup).setDrafts _
      · exact h.setDrafts _
  | copy i =>
    rw [World.step]
    split
    · exact h
    · next s hs => exact h.addCopy (List.mem_of_getElem? hs)
  | value i name type payload =>
    rw [World.step]
    split
    · exact h
    · next s hs =>
      split
      · next v hv =>
        exact h.addValue (h.declares_of_find? (List.mem_of_getElem? hs) (Schema.find?_of_value hv))
      · exact h
  | pattern i name type =>
    rw [World.step]
    split
    · exact h
    · next s hs =>
      split
      · next p hp =>
        exact h.addPattern
          (h.declares_of_find? (List.mem_of_getElem? hs) (Schema.find?_of_pattern hp))
      · exact h

/-- Every world is consistent. -/
theorem consistent_after (steps : List (SchemaStep C)) : (after steps).Consistent := by
  induction steps using List.reverseRecOn with
  | nil => exact consistent_empty
  | append_singleton steps step ih =>
    rw [after, List.foldl_append]
    exact consistent_step ih step

end Step

/-! ## Tags and identities -/

section Identity

variable {w : World C} {n m : Nat} {t t' : SchemaTag} {type type' : C}

omit [DecidableEq C] in
/-- Before the identities are used up, builds with one identity are one build. -/
theorem Consistent.number_eq (h : w.Consistent) (hbuilds : w.built.length < 2 ^ 64)
    {s s' : Schema C} (hs : w.built[n]? = some s) (hs' : w.built[m]? = some s')
    (hid : s.id = s'.id) : n = m := by
  have hn : n < w.built.length := (List.getElem?_eq_some_iff.mp hs).1
  have hm : m < w.built.length := (List.getElem?_eq_some_iff.mp hs').1
  have heq : UInt64.ofNat n = UInt64.ofNat m := by
    rw [← h.id_eq n s hs, ← h.id_eq m s' hs', hid]
  -- below the bound the counter has not come round
  have hmod := congrArg UInt64.toNat heq
  rw [UInt64.toNat_ofNat', UInt64.toNat_ofNat', Nat.mod_eq_of_lt (by omega),
    Nat.mod_eq_of_lt (by omega)] at hmod
  exact hmod

omit [DecidableEq C] in
/-- Before the identities are used up, a tag is declared by one build only. -/
theorem Declares.origin_eq (h : w.Consistent) (hbuilds : w.built.length < 2 ^ 64)
    (ht : w.Declares n t type) (ht' : w.Declares m t type') : n = m := by
  obtain ⟨s, hs, hfind⟩ := ht
  obtain ⟨s', hs', hfind'⟩ := ht'
  -- the tag carries the identity of both builds
  have hid : s.id = t.schema := by rw [Schema.tag_of_find? hfind]; rfl
  have hid' : s'.id = t.schema := by rw [Schema.tag_of_find? hfind']; rfl
  exact h.number_eq hbuilds hs hs' (by rw [hid, hid'])

omit [DecidableEq C] in
/-- Before the identities are used up, a tag is declared with one type only. -/
theorem Declares.type_eq (h : w.Consistent) (hbuilds : w.built.length < 2 ^ 64)
    (ht : w.Declares n t type) (ht' : w.Declares m t type') : type = type' := by
  have hnm := ht.origin_eq h hbuilds ht'
  subst hnm
  obtain ⟨s, hs, hfind⟩ := ht
  obtain ⟨s', hs', hfind'⟩ := ht'
  rw [hs] at hs'
  obtain rfl := Option.some.inj hs'
  rw [hfind] at hfind'
  exact (Prod.mk.inj (Option.some.inj hfind')).2

end Identity

end World

end TagDispatch
