import TagDispatch.PayloadType
import TagDispatch.Proofs.Optional
import TagDispatch.Proofs.World

/-!
# Type safety of schemas

A value that carries the tag of a pattern has a payload of the type of the pattern, whichever of the
schemas the two were made by: `World.Declares.type_eq` is the reason, since both types are declared
for the one tag. So the patterns of a world take all its values that carry their tags, and no table
over them ends in the defect of a wrong branch, however the schemas are mixed in it.
-/

namespace TagDispatch

namespace World

variable {C : Type} [DecidableEq C] [TypeCode C] {w : World C} {v : Traced (SchemaValue C)}

/-- A pattern over values of schemas that is one of the patterns of the world. -/
inductive Grants (w : World C) : (P : Type) → Pattern (SchemaValue C) SchemaTag P → Prop
  | of {p : Traced (SchemaPattern C)} (h : p ∈ w.patterns) : Grants w _ p.item.toPattern

omit [DecidableEq C] in
/-- Values and patterns with one tag have one type. -/
theorem Consistent.type_eq (h : w.Consistent) (hbuilds : w.built.length < 2 ^ 64)
    (hv : v ∈ w.values) {p : Traced (SchemaPattern C)} (hp : p ∈ w.patterns)
    (htag : v.item.tag = p.item.tag) : v.item.type = p.item.type := by
  -- both types are declared for the one tag, perhaps by different builds
  have hvalue := h.value_declared v hv
  have hpattern := h.pattern_declared p hp
  rw [← htag] at hpattern
  exact hvalue.type_eq h hbuilds hpattern

/-- A pattern of the world is lawful at every value of the world. -/
theorem Grants.lawfulAt (h : w.Consistent) (hbuilds : w.built.length < 2 ^ 64) (hv : v ∈ w.values)
    {P : Type} {p : Pattern (SchemaValue C) SchemaTag P} (hp : w.Grants P p) :
    p.LawfulAt v.item := by
  obtain ⟨hp⟩ := hp
  exact SchemaPattern.lawfulAt _ v.item (h.type_eq hbuilds hv hp)

/-- A pattern of the world takes every value of the world that carries its tag. -/
theorem Grants.takesAt (h : w.Consistent) (hbuilds : w.built.length < 2 ^ 64) (hv : v ∈ w.values)
    {P : Type} {p : Pattern (SchemaValue C) SchemaTag P} (hp : w.Grants P p) :
    p.TakesAt v.item :=
  (hp.lawfulAt h hbuilds hv).takesAt

/-- **Type safety.** Before the identities are used up, a value and a pattern with the same tag have
the same type, and no table of either kind over patterns of schemas ends in the defect of a wrong
branch unless code of its calls does. -/
theorem dispatch_type_safe {ε σ R : Type} (steps : List (SchemaStep C))
    (hbuilds : (after steps).built.length < 2 ^ 64) :
    (∀ v ∈ (after steps).values, ∀ p ∈ (after steps).patterns,
      tag v.item = p.item.toPattern.tag → v.item.type = p.item.type) ∧
    (∀ calls : List (Registration ε σ (SchemaValue C) SchemaTag R),
      (∀ call ∈ calls, call.PatternIn (after steps).Grants) →
      ∀ v ∈ (after steps).values, ∀ expected found,
        (∀ call ∈ calls, call.CodeIn fun _ x => x.Avoids (.branchKeyMismatch expected found)) →
        ((Table.ofRegistrations calls).dispatch v.item).Avoids
          (.branchKeyMismatch expected found)) ∧
    ∀ calls : List (PartialRegistration ε σ (SchemaValue C) SchemaTag R),
      (∀ call ∈ calls, call.PatternIn (after steps).Grants) →
      ∀ v ∈ (after steps).values, ∀ expected found,
        (∀ call ∈ calls, call.CodeIn fun _ x => x.Avoids (.branchKeyMismatch expected found)) →
        ((PartialTable.ofRegistrations calls).dispatch v.item).Avoids
          (.branchKeyMismatch expected found) := by
  have hw := consistent_after steps
  refine ⟨fun v hv p hp htag => hw.type_eq hbuilds hv hp htag,
    fun calls hcalls v hv expected found hcode => ?_,
    fun calls hcalls v hv expected found hcode => ?_⟩
  · have htakes : ∀ call ∈ calls, call.PatternIn fun _ p => p.TakesAt v.item :=
      fun call hcall => (hcalls call hcall).imp (Grants.takesAt hw hbuilds hv)
    exact Table.dispatch_avoids_of_takesAt htakes hcode (by simp)
  · have htakes : ∀ call ∈ calls, call.PatternIn fun _ p => p.TakesAt v.item :=
      fun call hcall => (hcalls call hcall).imp (Grants.takesAt hw hbuilds hv)
    exact PartialTable.dispatch_avoids_of_takesAt htakes hcode

end World

/-! ## Shapes -/

namespace Shapes

theorem seven_holds : IntKind.i64.holds 7 := by decide

/-- Two schemas alike in their names: one declares circles by a radius and the other by a text. -/
def steps : List (SchemaStep PayloadType) :=
  [.draft "Shape", .declare 0 "Circle" (.int .i64), .declareUnit 0 "Dot", .build 0,
    .draft "Shape", .declare 0 "Circle" .ownedText, .build 0, .copy 0,
    .value 2 "Circle" (.int .i64) (⟨7, seven_holds⟩ : { n : Int // IntKind.i64.holds n }),
    .value 1 "Circle" .ownedText "disc",
    .pattern 0 "Circle" (.int .i64), .pattern 1 "Circle" .ownedText]

/-- The circle that the copy of the first schema makes. -/
def seven : Traced (SchemaValue PayloadType) where
  origin := 0
  item :=
    { tag := ⟨0, "Shape", "Circle"⟩
      type := .int .i64
      payload := (⟨7, seven_holds⟩ : { n : Int // IntKind.i64.holds n }) }

/-- The pattern of circles of the first schema. -/
def radius : Traced (SchemaPattern PayloadType) := ⟨0, ⟨0, "Shape", "Circle"⟩, .int .i64⟩

/-- The pattern of circles of the second schema. -/
def label : Traced (SchemaPattern PayloadType) := ⟨1, ⟨1, "Shape", "Circle"⟩, .ownedText⟩

theorem built_lt : (World.after steps).built.length < 2 ^ 64 := by
  show 2 < 2 ^ 64
  decide

theorem seven_mem : seven ∈ (World.after steps).values := List.mem_cons_self

theorem radius_mem : radius ∈ (World.after steps).patterns := List.mem_cons_self

theorem label_mem : label ∈ (World.after steps).patterns :=
  List.mem_cons_of_mem _ (List.mem_singleton.mpr rfl)

/-- A handler for each of the two kinds of circle. -/
def calls : List (Registration String Nat (SchemaValue PayloadType) SchemaTag Unit) :=
  [.handle label.item.toPattern fun _ => Act.panic "label",
    .handle radius.item.toPattern fun _ => Act.write "radius"]

/-- An open chain for the one and a closed chain for the other kind of circle. -/
def chains : List (PartialRegistration String Nat (SchemaValue PayloadType) SchemaTag Unit) :=
  [.openChain { pattern := radius.item.toPattern },
    .closedChain { pattern := label.item.toPattern } fun _ => Act.panic "label"]

theorem calls_granted : ∀ call ∈ calls, call.PatternIn (World.after steps).Grants := by
  simp only [calls, List.forall_mem_cons, Registration.PatternIn]
  exact ⟨.of label_mem, .of radius_mem, by simp⟩

theorem calls_foreign : ∀ call ∈ calls, call.CodeIn fun _ x => x.Foreign := by
  simp only [calls, List.forall_mem_cons, Registration.CodeIn]
  exact ⟨fun _ => Act.foreign_panic _, fun _ => Act.foreign_write _, by simp⟩

theorem chains_granted : ∀ call ∈ chains, call.PatternIn (World.after steps).Grants := by
  simp only [chains, List.forall_mem_cons, PartialRegistration.PatternIn]
  exact ⟨.of radius_mem, .of label_mem, by simp⟩

theorem chains_avoid (e : Error) : ∀ call ∈ chains, call.CodeIn fun _ x => x.Avoids e := by
  simp only [chains, List.forall_mem_cons, PartialRegistration.CodeIn]
  exact ⟨by simp, ⟨by simp, fun _ => (Act.foreign_panic _).avoids e⟩, by simp⟩

theorem dispatch_seven_type_safe :
    (World.after steps).built.length = 2 ∧
    seven.item.type = radius.item.type ∧
    ((Table.ofRegistrations calls).dispatch seven.item).Avoids
      (.branchKeyMismatch "Circle" "Circle") ∧
    ((PartialTable.ofRegistrations chains).dispatch seven.item).Avoids
      (.branchKeyMismatch "Circle" "Circle") := by
  obtain ⟨htype, hcalls, hchains⟩ :=
    World.dispatch_type_safe (ε := String) (σ := Nat) (R := Unit) steps built_lt
  exact ⟨rfl, htype seven seven_mem radius radius_mem rfl,
    hcalls calls calls_granted seven seven_mem _ _
      (Registration.avoids_of_foreign calls_foreign _),
    hchains chains chains_granted seven seven_mem _ _ (chains_avoid _)⟩

end Shapes

end TagDispatch
