import TagDispatch.Proofs.Access

/-!
# Isolation of schemas

Schemas of different builds do not see each other, however much they look alike. A tag says which
build it goes back to: `World.Obtains.eq_iff` tells tags apart by their builds and their names. So a
pattern of another build refuses the value, and a table dispatches a value as if the calls for other
builds had never been made.

Calls are numbered here by the build that their patterns go back to, and `onlyBuild` deletes those
of other builds. Only a call for a tag can be for another build, so fallbacks stay.
-/

namespace TagDispatch

universe u v

/-! ## Deleting calls for other builds -/

section OnlyBuild

variable {A : Type u} {B : Type v} {T : Type} {tag? : A → Option T} {n : Nat} {t : T}
variable {calls : List (Nat × A)} {call : Nat × A}

/-- The numbered calls that are for the build with the number or for no tag. -/
def onlyBuild (tag? : A → Option T) (n : Nat) (calls : List (Nat × A)) : List (Nat × A) :=
  calls.filter fun call => call.1 = n ∨ tag? call.2 = none

theorem onlyBuild_append_singleton :
    onlyBuild tag? n (calls ++ [call]) =
      onlyBuild tag? n calls ++ if call.1 = n ∨ tag? call.2 = none then [call] else [] := by
  unfold onlyBuild
  rw [List.filter_append]
  by_cases hkeep : call.1 = n ∨ tag? call.2 = none <;> simp [hkeep]

/-- If only calls for one build are for a tag, the last of them stays. -/
theorem lastCall_onlyBuild [DecidableEq T]
    (hbuild : ∀ call ∈ calls, tag? call.2 = some t → call.1 = n) :
    lastCall tag? ((onlyBuild tag? n calls).map Prod.snd) t =
      lastCall tag? (calls.map Prod.snd) t := by
  induction calls using List.reverseRecOn with
  | nil => rfl
  | append_singleton calls call ih =>
    have ih := ih fun c hc => hbuild c (List.mem_append_left _ hc)
    rw [onlyBuild_append_singleton, List.map_append, List.map_append, List.map_singleton,
      lastCall_append_singleton]
    by_cases hkeep : call.1 = n ∨ tag? call.2 = none
    · rw [if_pos hkeep, List.map_singleton, lastCall_append_singleton, ih]
    · -- a deleted call is for another tag
      have htag : tag? call.2 ≠ some t := by
        intro htag
        exact hkeep (Or.inl (hbuild call (by simp) htag))
      rw [if_neg hkeep, List.map_nil, List.append_nil, ih, if_neg htag]

/-- What calls for no tag set is set by the same call as before. -/
theorem findSomeRev?_onlyBuild {f : A → Option B} (hf : ∀ a, f a ≠ none → tag? a = none) :
    ((onlyBuild tag? n calls).map Prod.snd).findSomeRev? f =
      (calls.map Prod.snd).findSomeRev? f := by
  induction calls using List.reverseRecOn with
  | nil => rfl
  | append_singleton calls call ih =>
    rw [onlyBuild_append_singleton, List.map_append, List.map_append, List.map_singleton,
      findSomeRev?_append_singleton]
    by_cases hkeep : call.1 = n ∨ tag? call.2 = none
    · rw [if_pos hkeep, List.map_singleton, findSomeRev?_append_singleton, ih]
    · -- a deleted call is for a tag and sets nothing
      have hnone : f call.2 = none := by
        by_contra hsome
        exact hkeep (Or.inr (hf call.2 hsome))
      rw [if_neg hkeep, List.map_nil, List.append_nil, ih, hnone, Option.none_or]

end OnlyBuild

/-- A call that sets a fallback is for no tag. -/
theorem Registration.tag?_eq_none {ε σ V T R : Type} (call : Registration ε σ V T R)
    (h : call.fallback? ≠ none) : call.tag? = none := by
  cases call with
  | orElse f => rfl
  | handle p handler => exact absurd rfl h
  | chain cs default => exact absurd rfl h

/-- A call that sets a fallback is for no tag. -/
theorem PartialRegistration.tag?_eq_none {ε σ V T R : Type} (call : PartialRegistration ε σ V T R)
    (h : call.fallback? ≠ none) : call.tag? = none := by
  cases call with
  | orElse f => rfl
  | handle p handler => exact absurd rfl h
  | openChain cs => exact absurd rfl h
  | closedChain cs default => exact absurd rfl h

namespace World

variable {C : Type} [TypeCode C] {w : World C} {n m : Nat} {t t' : SchemaTag}

/-! ## Tags of different builds -/

/-- The ways in which a program comes by a tag, with the number of the build it goes back to. -/
inductive Obtains (w : World C) : Nat → SchemaTag → Prop
  | tag {s : Traced (Schema C)} {name : String} {t : SchemaTag} (hs : s ∈ w.schemas)
      (h : s.item.tag? name = some t) : Obtains w s.origin t
  | tags {s : Traced (Schema C)} {t : SchemaTag} (hs : s ∈ w.schemas) (h : t ∈ s.item.tags) :
      Obtains w s.origin t
  | value {v : Traced (SchemaValue C)} (hv : v ∈ w.values) : Obtains w v.origin v.item.tag
  | pattern {p : Traced (SchemaPattern C)} (hp : p ∈ w.patterns) : Obtains w p.origin p.item.tag

/-- A tag of a program is named in the build that it goes back to. -/
theorem Obtains.exists_built (h : w.Consistent) (ht : w.Obtains n t) :
    ∃ s, w.built[n]? = some s ∧ t = s.tagNamed t.name := by
  have hdeclared : ∀ {n t type}, w.Declares n t type →
      ∃ s, w.built[n]? = some s ∧ t = s.tagNamed t.name := by
    rintro n t type ⟨s, hs, hfind⟩
    exact ⟨s, hs, Schema.tag_of_find? hfind⟩
  cases ht with
  | tag hs hname =>
    obtain ⟨⟨t, type⟩, hfind, rfl⟩ := Option.map_eq_some_iff.mp hname
    exact hdeclared (h.declares_of_find? hs hfind)
  | @tags s t hs hmem =>
    obtain ⟨d, -, rfl⟩ := List.mem_map.mp hmem
    exact ⟨s.item, h.schema_eq s hs, rfl⟩
  | value hv => exact hdeclared (h.value_declared _ hv)
  | pattern hp => exact hdeclared (h.pattern_declared _ hp)

/-- Before the identities are used up, tags are equal exactly if they go back to one build and have
one name. -/
theorem Obtains.eq_iff (h : w.Consistent) (hbuilds : w.built.length < 2 ^ 64)
    (ht : w.Obtains n t) (ht' : w.Obtains m t') : t = t' ↔ n = m ∧ t.name = t'.name := by
  obtain ⟨s, hs, hts⟩ := ht.exists_built h
  obtain ⟨s', hs', hts'⟩ := ht'.exists_built h
  constructor
  · rintro rfl
    have hid : s.id = s'.id := by
      calc s.id = t.schema := by rw [hts]; rfl
        _ = s'.id := by rw [hts']; rfl
    exact ⟨h.number_eq hbuilds hs hs' hid, rfl⟩
  · rintro ⟨rfl, hname⟩
    rw [hs] at hs'
    obtain rfl := Option.some.inj hs'
    rw [hts, hts', hname]

/-! ## Patterns of different builds -/

variable [DecidableEq C]

/-- A pattern over values of schemas that is one of the patterns of the world, made by a schema that
goes back to the build with the number. -/
inductive GrantsFrom (w : World C) (n : Nat) :
    (P : Type) → Pattern (SchemaValue C) SchemaTag P → Prop
  | of {p : Traced (SchemaPattern C)} (hp : p ∈ w.patterns) (horigin : p.origin = n) :
      GrantsFrom w n _ p.item.toPattern

variable {v : Traced (SchemaValue C)}

omit [DecidableEq C] in
/-- A pattern of another build has another tag than the value. -/
theorem Consistent.tag_ne (h : w.Consistent) (hbuilds : w.built.length < 2 ^ 64)
    {p : Traced (SchemaPattern C)} (hp : p ∈ w.patterns) (hv : v ∈ w.values)
    (horigin : p.origin ≠ v.origin) : v.item.tag ≠ p.item.tag := by
  intro htag
  have heq := ((Obtains.value hv).eq_iff h hbuilds (.pattern hp)).mp htag
  exact horigin heq.1.symm

/-- A call for the tag of a value goes back to the build of the value. -/
theorem Consistent.number_of_tag? {ε σ R : Type} (h : w.Consistent)
    (hbuilds : w.built.length < 2 ^ 64) (hv : v ∈ w.values)
    {call : Registration ε σ (SchemaValue C) SchemaTag R} (hcall : call.PatternIn (w.GrantsFrom n))
    (htag : call.tag? = some v.item.tag) : n = v.origin := by
  have hpattern : ∀ {P : Type} {p : Pattern (SchemaValue C) SchemaTag P}, w.GrantsFrom n P p →
      p.tag = v.item.tag → n = v.origin := by
    rintro P p ⟨hp, rfl⟩ heq
    by_contra hne
    exact h.tag_ne hbuilds hp hv hne heq.symm
  cases call with
  | handle p handler => exact hpattern hcall (Option.some.inj htag)
  | chain cs default => exact hpattern hcall (Option.some.inj htag)
  | orElse f => cases htag

/-! ## Isolation -/

/-- **Isolation.** Before the identities are used up, tags are equal exactly if they go back to one
build and have one name. A table of either kind over patterns of any schemas dispatches a value as
it does without the calls for other builds than that of the value, and a pattern of another build
does not fit the value, shows no payload and gives the value back. -/
theorem schemas_isolated {ε σ R : Type} (steps : List (SchemaStep C))
    (hbuilds : (after steps).built.length < 2 ^ 64) :
    (∀ n m t t', (after steps).Obtains n t → (after steps).Obtains m t' →
      (t = t' ↔ n = m ∧ t.name = t'.name)) ∧
    (∀ calls : List (Nat × Registration ε σ (SchemaValue C) SchemaTag R),
      (∀ call ∈ calls, call.2.PatternIn ((after steps).GrantsFrom call.1)) →
      ∀ v ∈ (after steps).values,
        (Table.ofRegistrations
            ((onlyBuild Registration.tag? v.origin calls).map Prod.snd)).dispatch v.item =
          (Table.ofRegistrations (calls.map Prod.snd)).dispatch v.item) ∧
    (∀ calls : List (Nat × PartialRegistration ε σ (SchemaValue C) SchemaTag R),
      (∀ call ∈ calls, call.2.PatternIn ((after steps).GrantsFrom call.1)) →
      ∀ v ∈ (after steps).values,
        (PartialTable.ofRegistrations
            ((onlyBuild PartialRegistration.tag? v.origin calls).map Prod.snd)).dispatch v.item =
          (PartialTable.ofRegistrations (calls.map Prod.snd)).dispatch v.item) ∧
    ∀ p ∈ (after steps).patterns, ∀ v ∈ (after steps).values, p.origin ≠ v.origin →
      p.item.toPattern.fits v.item = false ∧ p.item.toPattern.peek? v.item = none ∧
        p.item.toPattern.take v.item = .error v.item := by
  have hw := consistent_after steps
  refine ⟨fun n m t t' ht ht' => ht.eq_iff hw hbuilds ht', ?_, ?_, ?_⟩
  · intro calls hcalls v hv
    refine Table.dispatch_congr (lastCall_onlyBuild fun call hcall htag => ?_)
      (findSomeRev?_onlyBuild Registration.tag?_eq_none)
    exact hw.number_of_tag? hbuilds hv (hcalls call hcall) htag
  · intro calls hcalls v hv
    refine PartialTable.dispatch_congr (lastCall_onlyBuild fun call hcall htag => ?_)
      (findSomeRev?_onlyBuild PartialRegistration.tag?_eq_none)
    have htag' : call.2.optional.tag? = some v.item.tag := by
      rw [PartialRegistration.tag?_optional]
      exact htag
    have hcall' := PartialRegistration.patternIn_optional_iff.mpr (hcalls call hcall)
    exact hw.number_of_tag? hbuilds hv hcall' htag'
  · intro p hp v hv horigin
    have hne := hw.tag_ne hbuilds hp hv horigin
    have hlawful := p.item.lawfulAt v.item fun htag => absurd htag hne
    have hrefuses := hlawful.refuses (if_neg hne)
    exact ⟨hrefuses.fits_eq, hrefuses.peek?_eq, hrefuses.take_eq⟩

end World

/-! ## Shapes -/

namespace Shapes

/-- The handlers for both kinds of circle, numbered by their builds, and a fallback. -/
def numberedCalls : List (Nat × Registration String Nat (SchemaValue PayloadType) SchemaTag Unit) :=
  [(1, .handle label.item.toPattern fun _ => Act.panic "label"),
    (0, .handle radius.item.toPattern fun _ => Act.write "radius"),
    (1, .orElse (Act.write "fallback"))]

theorem numberedCalls_granted :
    ∀ call ∈ numberedCalls, call.2.PatternIn ((World.after steps).GrantsFrom call.1) := by
  simp only [numberedCalls, List.forall_mem_cons, Registration.PatternIn]
  exact ⟨.of label_mem rfl, .of radius_mem rfl, trivial, by simp⟩

/-- An open chain for either kind of circle, numbered by its build. -/
def numberedChains :
    List (Nat × PartialRegistration String Nat (SchemaValue PayloadType) SchemaTag Unit) :=
  [(0, .openChain { pattern := radius.item.toPattern }),
    (1, .openChain { pattern := label.item.toPattern })]

theorem numberedChains_granted :
    ∀ call ∈ numberedChains, call.2.PatternIn ((World.after steps).GrantsFrom call.1) := by
  simp only [numberedChains, List.forall_mem_cons, PartialRegistration.PatternIn]
  exact ⟨.of radius_mem rfl, .of label_mem rfl, by simp⟩

theorem circles_isolated :
    (World.after steps).built.length = 2 ∧
      (radius.item.tag = label.item.tag ↔ 0 = 1 ∧ "Circle" = "Circle") ∧
      (Table.ofRegistrations [.handle radius.item.toPattern fun _ => Act.write "radius",
          .orElse (Act.write "fallback")]).dispatch seven.item =
        (Table.ofRegistrations (numberedCalls.map Prod.snd)).dispatch seven.item ∧
      (PartialTable.ofRegistrations (R := Unit) (ε := String) (σ := Nat)
          [.openChain { pattern := radius.item.toPattern }]).dispatch seven.item =
        (PartialTable.ofRegistrations (numberedChains.map Prod.snd)).dispatch seven.item ∧
      label.item.toPattern.take seven.item = .error seven.item := by
  obtain ⟨htags, htables, hpartial, hpatterns⟩ :=
    World.schemas_isolated (ε := String) (σ := Nat) (R := Unit) steps built_lt
  exact ⟨rfl, htags 0 1 _ _ (.pattern radius_mem) (.pattern label_mem),
    htables numberedCalls numberedCalls_granted seven seven_mem,
    hpartial numberedChains numberedChains_granted seven seven_mem,
    (hpatterns label label_mem seven seven_mem (by decide)).2.2⟩

end Shapes

end TagDispatch
