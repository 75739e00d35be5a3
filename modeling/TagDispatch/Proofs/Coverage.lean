import TagDispatch.Proofs.TypeSafety
import TagDispatch.Script.Samples

/-!
# Coverage

The uncovered tags of a table are those that it has neither an entry nor a fallback for, so a tag is
uncovered in a list exactly if it stands there and is uncovered alone. A table without uncovered
tags handles every value whose tag was asked about: the list of tags is complete for the values of a
registry by `Registry.mem_tags` and for the values of a schema by `World.Consistent.tag_mem_tags`.
-/

namespace TagDispatch

variable {ε σ R : Type}

namespace Table

variable {V T : Type} [DecidableEq T]

/-! ## The check of coverage -/

theorem mem_uncovered {table : Table ε σ V T R} {tags : List T} {t : T} :
    t ∈ table.uncovered tags ↔
      t ∈ tags ∧ table.entries.find? t = none ∧ table.fallback = none := by
  have hentry : table.entries.contains t = false ↔ table.entries.find? t = none := by
    rw [← Entries.isSome_find?, Option.isSome_eq_false_iff, Option.isNone_iff_eq_none]
  unfold uncovered
  cases hf : table.fallback with
  | some f => simp
  | none => simp [hentry]

/-- A list is checked tag by tag. -/
theorem uncovered_eq_filter (table : Table ε σ V T R) (tags : List T) :
    table.uncovered tags = tags.filter fun t => table.uncovered [t] ≠ [] := by
  unfold uncovered
  cases table.fallback with
  | some f => simp
  | none =>
    refine List.filter_congr fun t ht => ?_
    cases hentry : table.entries.contains t <;> simp [hentry]

variable [Tagged V T] [Tag T] {calls : List (Registration ε σ V T R)} {tags : List T} {v : V}

/-- The uncovered tags are those that no call registers, unless a call sets a fallback. -/
theorem mem_uncovered_ofRegistrations {t : T} :
    t ∈ (ofRegistrations calls).uncovered tags ↔
      t ∈ tags ∧ lastCall Registration.tag? calls t = none ∧
        calls.findSomeRev? Registration.fallback? = none := by
  rw [mem_uncovered, find?_ofRegistrations, fallback_ofRegistrations, Option.map_eq_none_iff]

/-- A tag alone is uncovered if no call registers it and none sets a fallback. -/
theorem mem_uncovered_singleton {t : T} :
    t ∈ (ofRegistrations calls).uncovered [t] ↔
      lastCall Registration.tag? calls t = none ∧
        calls.findSomeRev? Registration.fallback? = none := by
  rw [mem_uncovered_ofRegistrations, and_iff_right (List.mem_singleton_self t)]

/-- A tag of a list without uncovered tags is covered. -/
theorem notMem_uncovered (hcovered : (ofRegistrations calls).uncovered tags = []) {t : T}
    (ht : t ∈ tags) : t ∉ (ofRegistrations calls).uncovered [t] := by
  intro h
  have hnothing := mem_uncovered_singleton.mp h
  have hmem : t ∈ (ofRegistrations calls).uncovered tags :=
    mem_uncovered_ofRegistrations.mpr ⟨ht, hnothing⟩
  rw [hcovered] at hmem
  exact List.not_mem_nil hmem

/-! ## Coverage and dispatch -/

/-- A value with an uncovered tag is a defect, and nothing of the caller runs. -/
theorem dispatch_of_uncovered (h : tag v ∈ (ofRegistrations calls).uncovered [tag v]) :
    (ofRegistrations calls).dispatch v = .defect (.handlerKey (Tag.name (tag v))) := by
  obtain ⟨hlast, hf⟩ := mem_uncovered_singleton.mp h
  exact dispatch_of_nothing hlast hf

/-- A value with a covered tag misses no handler. -/
theorem dispatch_avoids_handlerKey_of_covered {name : String}
    (hcode : ∀ call ∈ calls, call.CodeIn fun _ x => x.Avoids (.handlerKey name))
    (hcovered : tag v ∉ (ofRegistrations calls).uncovered [tag v]) :
    ((ofRegistrations calls).dispatch v).Avoids (.handlerKey name) := by
  refine dispatch_avoids hcode (fun call hlast => ?_) fun hlast hf => ?_
  · exact Registration.answer_avoids_handlerKey (hcode call (mem_of_lastCall hlast)) v
  · exact absurd (mem_uncovered_singleton.mpr ⟨hlast, hf⟩) hcovered

/-- A dispatch misses a handler exactly if the tag of the value is uncovered. -/
theorem dispatch_handlerKey_iff (hforeign : ∀ call ∈ calls, call.CodeIn fun _ x => x.Foreign)
    (s : σ) :
    (∃ name, ((ofRegistrations calls).dispatch v s).ending = .defective (.handlerKey name)) ↔
      tag v ∈ (ofRegistrations calls).uncovered [tag v] := by
  constructor
  · rintro ⟨name, hname⟩
    by_contra hcovered
    have hcode := Registration.avoids_of_foreign hforeign (.handlerKey name)
    exact dispatch_avoids_handlerKey_of_covered hcode hcovered s hname
  · intro huncovered
    refine ⟨Tag.name (tag v), ?_⟩
    rw [dispatch_of_uncovered huncovered]
    rfl

/-- A value with a covered tag that every pattern for its tag takes is no defect. -/
theorem dispatch_avoids_of_covered (hforeign : ∀ call ∈ calls, call.CodeIn fun _ x => x.Foreign)
    (htakes : ∀ call ∈ calls, call.PatternIn fun _ p => p.TakesAt v)
    (hcovered : tag v ∉ (ofRegistrations calls).uncovered [tag v]) (e : Error) :
    ((ofRegistrations calls).dispatch v).Avoids e := by
  have hcode := Registration.avoids_of_foreign hforeign e
  refine dispatch_avoids_of_takesAt htakes hcode fun hlast hf => ?_
  exact absurd (mem_uncovered_singleton.mpr ⟨hlast, hf⟩) hcovered

end Table

/-! ## Complete lists of tags -/

namespace Registry

variable {F : Type} {den : F → Type} {r : Registry F}

/-- A pattern over values of the registry that is the pattern of a tag. -/
inductive Marker (den : F → Type) (r : Registry F) :
    (P : Type) → Pattern (r.Value den) r.Tag P → Prop
  | of (t : r.Tag) : Marker den r _ (t.pattern den)

theorem mem_tags (t : r.Tag) : t ∈ r.tags :=
  List.mem_map.mpr ⟨t.place, List.mem_finRange t.place, rfl⟩

theorem Marker.lawful {P : Type} {p : Pattern (r.Value den) r.Tag P} (hp : Marker den r P p) :
    p.Lawful := by
  obtain ⟨t⟩ := hp
  exact pattern_lawful t

theorem Marker.takesAt {P : Type} {p : Pattern (r.Value den) r.Tag P} (hp : Marker den r P p)
    (v : r.Value den) : p.TakesAt v :=
  (hp.lawful v).takesAt

end Registry

namespace World

variable {C : Type} [TypeCode C] {w : World C}

/-- The tag of a value is one of the tags of every schema of the same build. -/
theorem Consistent.tag_mem_tags (h : w.Consistent) {s : Traced (Schema C)} (hs : s ∈ w.schemas)
    {v : Traced (SchemaValue C)} (hv : v ∈ w.values) (horigin : v.origin = s.origin) :
    v.item.tag ∈ s.item.tags := by
  obtain ⟨built, hbuilt, hfind⟩ := h.value_declared v hv
  -- the schema is a copy of the build that declares the tag of the value
  rw [horigin, h.schema_eq s hs] at hbuilt
  obtain rfl := Option.some.inj hbuilt
  exact Schema.mem_tags_of_find? hfind

end World

/-! ## Coverage is exact and sound -/

/-- **Coverage.** Let the code of the calls be foreign. The uncovered tags of a list are those of
its tags that are uncovered alone, and a dispatch misses a handler exactly if the tag of the
value is uncovered, before anything else runs. Over the patterns of a registry a table that
covers its tags raises no defect on its values. Over patterns of schemas a table that covers the
tags of a schema misses no handler on the values of its build, and before the identities are used
up it raises no defect on them. -/
theorem Table.uncovered_exact_and_sound :
    (∀ {V T : Type} [Tagged V T] [DecidableEq T] [Tag T] (calls : List (Registration ε σ V T R)),
      (∀ call ∈ calls, call.CodeIn fun _ x => x.Foreign) →
      (∀ tags, (ofRegistrations calls).uncovered tags =
        tags.filter fun t => (ofRegistrations calls).uncovered [t] ≠ []) ∧
      ∀ v : V,
        (∀ s, (∃ name,
            ((ofRegistrations calls).dispatch v s).ending = .defective (.handlerKey name)) ↔
          tag v ∈ (ofRegistrations calls).uncovered [tag v]) ∧
        (tag v ∈ (ofRegistrations calls).uncovered [tag v] →
          (ofRegistrations calls).dispatch v = .defect (.handlerKey (Tag.name (tag v))))) ∧
    (∀ {F : Type} (den : F → Type) (r : Registry F)
      (calls : List (Registration ε σ (r.Value den) r.Tag R)),
      (∀ call ∈ calls, call.CodeIn fun _ x => x.Foreign) →
      (∀ call ∈ calls, call.PatternIn (Registry.Marker den r)) →
      (ofRegistrations calls).uncovered r.tags = [] →
      ∀ v e, ((ofRegistrations calls).dispatch v).Avoids e) ∧
    ∀ {C : Type} [DecidableEq C] [TypeCode C] (steps : List (SchemaStep C))
      (calls : List (Registration ε σ (SchemaValue C) SchemaTag R)),
      (∀ call ∈ calls, call.CodeIn fun _ x => x.Foreign) →
      (∀ call ∈ calls, call.PatternIn (World.after steps).Grants) →
      ∀ s ∈ (World.after steps).schemas, (ofRegistrations calls).uncovered s.item.tags = [] →
      ∀ v ∈ (World.after steps).values, v.origin = s.origin →
        (∀ name, ((ofRegistrations calls).dispatch v.item).Avoids (.handlerKey name)) ∧
        ((World.after steps).built.length < 2 ^ 64 →
          ∀ e, ((ofRegistrations calls).dispatch v.item).Avoids e) := by
  refine ⟨fun calls hforeign => ⟨uncovered_eq_filter _, fun v =>
      ⟨dispatch_handlerKey_iff hforeign, dispatch_of_uncovered⟩⟩,
    fun den r calls hforeign hmarkers hcovered v e => ?_,
    fun steps calls hforeign hgranted s hs hcovered v hv horigin => ?_⟩
  · have htakes : ∀ call ∈ calls, call.PatternIn fun _ p => p.TakesAt v :=
      fun call hcall => (hmarkers call hcall).imp fun hp => hp.takesAt v
    have hcovers := notMem_uncovered hcovered (Registry.mem_tags (tag v))
    exact dispatch_avoids_of_covered hforeign htakes hcovers e
  · have hw := World.consistent_after steps
    have hcovers := notMem_uncovered hcovered (hw.tag_mem_tags hs hv horigin)
    constructor
    · -- the identities do not matter here, since the value has a tag of its own build
      intro name
      have hcode := Registration.avoids_of_foreign hforeign (.handlerKey name)
      exact dispatch_avoids_handlerKey_of_covered hcode hcovers
    · intro hbuilds e
      have htakes : ∀ call ∈ calls, call.PatternIn fun _ p => p.TakesAt v.item :=
        fun call hcall => (hgranted call hcall).imp (World.Grants.takesAt hw hbuilds hv)
      exact dispatch_avoids_of_covered hforeign htakes hcovers e

/-! ## Shapes -/

namespace Shapes

open Script

/-- The second schema of shapes. -/
def labels : Traced (Schema PayloadType) := ⟨1, ⟨1, "Shape", [("Circle", .ownedText)]⟩⟩

/-- The circle of the second schema. -/
def disc : Traced (SchemaValue PayloadType) where
  origin := 1
  item :=
    { tag := ⟨1, "Shape", "Circle"⟩
      type := .ownedText
      payload := ("disc" : String) }

/-- A dot of the first schema. -/
def dot : SchemaValue PayloadType where
  tag := ⟨0, "Shape", "Dot"⟩
  type := .unit
  payload := ()

theorem labels_mem : labels ∈ (World.after steps).schemas :=
  List.mem_cons_of_mem _ List.mem_cons_self

theorem disc_mem : disc ∈ (World.after steps).values :=
  List.mem_cons_of_mem _ (List.mem_singleton.mpr rfl)

def box : Sample.lone.Tag := ⟨⟨0, by decide⟩⟩

/-- A handler for all tags of a registry with one variant. -/
def boxCalls : List
    (Registration String Nat (Sample.lone.Value PayloadType.Val) Sample.lone.Tag Unit) :=
  [.handle (box.pattern _) fun _ => Act.write "box"]

theorem boxCalls_foreign : ∀ call ∈ boxCalls, call.CodeIn fun _ x => x.Foreign := by
  simp only [boxCalls, List.forall_mem_singleton, Registration.CodeIn]
  exact fun _ => Act.foreign_write _

theorem boxCalls_markers :
    ∀ call ∈ boxCalls, call.PatternIn (Registry.Marker PayloadType.Val Sample.lone) := by
  simp only [boxCalls, List.forall_mem_singleton, Registration.PatternIn]
  exact .of box

theorem uncovered_calls_dot :
    (Table.ofRegistrations calls).uncovered [dot.tag, radius.item.tag, dot.tag] =
        [dot.tag, dot.tag] ∧
      (∃ name, ((Table.ofRegistrations calls).dispatch dot 0).ending =
        .defective (.handlerKey name)) ∧
      (Table.ofRegistrations calls).dispatch dot = .defect (.handlerKey "Dot") ∧
      (∀ v e, ((Table.ofRegistrations boxCalls).dispatch v).Avoids e) ∧
      ∀ e, ((Table.ofRegistrations calls).dispatch disc.item).Avoids e := by
  obtain ⟨hexact, hregistry, hschemas⟩ :=
    Table.uncovered_exact_and_sound (ε := String) (σ := Nat) (R := Unit)
  obtain ⟨hfilter, hdispatch⟩ := hexact calls calls_foreign
  have hdot : tag dot ∈ (Table.ofRegistrations calls).uncovered [tag dot] :=
    List.mem_singleton.mpr rfl
  refine ⟨?_, ((hdispatch dot).1 0).mpr hdot, (hdispatch dot).2 hdot,
    hregistry _ _ boxCalls boxCalls_foreign boxCalls_markers rfl,
    (hschemas steps calls calls_foreign calls_granted labels labels_mem rfl disc disc_mem rfl).2
      built_lt⟩
  rw [hfilter]
  rfl

end Shapes

end TagDispatch
