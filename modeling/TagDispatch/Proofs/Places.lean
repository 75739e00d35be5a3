import Mathlib.Data.List.Forall2
import Mathlib.Data.List.Nodup
import TagDispatch.Proofs.Optional

/-!
# Places of entries

The entries of a table remember two things about each tag: its place is that of the first call for
the tag, and it holds what the last one registered. `Entries.Reflects` says so of the entries as a
whole, with each tag in one place only, which is what looking up and listing rely on.

A call for a tag that has a place already, and a call for no tag, leave all other entries where they
are and as they are, wherever among the calls it stands: `Entries.AgreeOff`.
-/

namespace TagDispatch

universe u

variable {ε σ V T R : Type}

/-! ## The tags of the first calls -/

section RegisteredTags

variable {A B : Type u} [DecidableEq T] {tag? : A → Option T} {calls : List A} {call : A} {t : T}

/-- The tags that calls register something for, each once, in the order of their first calls. -/
def registeredTags (tag? : A → Option T) (calls : List A) : List T :=
  (calls.filterMap tag?).eraseDups

/-- A call for no tag registers none. -/
theorem registeredTags_append_of_none (h : tag? call = none) :
    registeredTags tag? (calls ++ [call]) = registeredTags tag? calls := by
  simp [registeredTags, h]

/-- A call for a tag puts it behind the others, unless it is among them. -/
theorem registeredTags_append_of_some (h : tag? call = some t) :
    registeredTags tag? (calls ++ [call]) =
      if t ∈ registeredTags tag? calls then registeredTags tag? calls
      else registeredTags tag? calls ++ [t] := by
  have hcall : [call].filterMap tag? = [t] := by simp [h]
  unfold registeredTags
  rw [List.filterMap_append, hcall]
  generalize calls.filterMap tag? = tags
  rw [List.eraseDups_append]
  by_cases ht : t ∈ tags <;> simp [List.removeAll, List.eraseDups_cons, ht]

/-- Converting the calls without touching their tags keeps the tags. -/
theorem registeredTags_map {f : A → B} {tag?' : B → Option T} (hf : ∀ c, tag?' (f c) = tag? c) :
    registeredTags tag?' (calls.map f) = registeredTags tag? calls := by
  rw [registeredTags, List.filterMap_map, registeredTags]
  exact congrArg (fun g => (calls.filterMap g).eraseDups) (funext hf)

end RegisteredTags

/-! ## Entries in places of their own -/

namespace Entries

variable {H : Type} [DecidableEq T] {es es' : Entries T H} {t : T}

/-- To register a handler keeps each tag in one place. -/
theorem nodup_tags_insert (hnodup : es.tags.Nodup) (t : T) (k : H) :
    (es.insert t k).tags.Nodup := by
  rw [tags_insert]
  split
  · exact hnodup
  · rw [List.nodup_append]
    refine ⟨hnodup, List.nodup_singleton t, fun u hu w hw => ?_⟩
    rw [List.mem_singleton.mp hw]
    rintro rfl
    contradiction

/-- If each tag has one place, a handler that is found is that of the only entry with the tag. -/
theorem filter_of_find? (hnodup : es.tags.Nodup) {k : H} (hfind : es.find? t = some k) :
    es.toList.filter (fun entry => entry.1 = t) = [(t, k)] := by
  obtain ⟨entries⟩ := es
  simp only [tags_mk] at hnodup
  simp only [find?] at hfind
  induction entries with
  | nil => cases hfind
  | cons entry rest ih =>
    obtain ⟨u, k'⟩ := entry
    obtain ⟨hu, hrest⟩ := List.nodup_cons.mp hnodup
    by_cases ht : u = t
    · -- the first entry is the one, and no later one has its tag
      subst ht
      have hnone : rest.filter (fun entry => entry.1 = u) = [] := by
        refine List.filter_eq_nil_iff.mpr fun entry hentry htag => hu ?_
        exact List.mem_map.mpr ⟨entry, hentry, of_decide_eq_true htag⟩
      have hk : k' = k := by simpa using hfind
      simp [hnone, hk]
    · have hlater : (rest.find? fun entry => entry.1 = t).map (·.2) = some k := by
        simpa [ht] using hfind
      simpa [ht] using ih hrest hlater

theorem contains_eq (es : Entries T H) (t : T) : es.contains t = decide (t ∈ es.tags) := by
  rw [Bool.eq_iff_iff, decide_eq_true_eq]
  simp [contains, tags]

/-- If each tag has one place, what is found for the tag of an entry is its handler. -/
theorem find?_of_mem (hnodup : es.tags.Nodup) {entry : T × H} (hentry : entry ∈ es.toList) :
    es.find? entry.1 = some entry.2 := by
  have hcontains : (es.find? entry.1).isSome := by
    rw [isSome_find?, contains, List.any_eq_true]
    exact ⟨entry, hentry, decide_eq_true rfl⟩
  obtain ⟨k, hk⟩ := Option.isSome_iff_exists.mp hcontains
  have hmem : entry ∈ es.toList.filter fun other => other.1 = entry.1 :=
    List.mem_filter.mpr ⟨hentry, decide_eq_true rfl⟩
  rw [filter_of_find? hnodup hk, List.mem_singleton] at hmem
  rw [hk, congrArg Prod.snd hmem]

/-- The entries that calls leave: each tag stands in one place, the places are in the order of the
first calls, and each entry holds what the last call for its tag registers. -/
structure Reflects {A : Type u} (es : Entries T H) (tag? : A → Option T) (answer : A → H)
    (calls : List A) : Prop where
  tags_nodup : es.tags.Nodup
  tags_eq : es.tags = registeredTags tag? calls
  holds_last : ∀ entry ∈ es.toList, ∃ call, lastCall tag? calls entry.1 = some call ∧
    tag? call = some entry.1 ∧ answer call = entry.2
  contains_iff : ∀ t, es.contains t = true ↔ ∃ k, es.find? t = some k
  only : ∀ t k, es.find? t = some k → es.toList.filter (fun entry => entry.1 = t) = [(t, k)]

/-- Entries reflect calls if their tags are those of the first calls and what they find is what the
last calls register. -/
theorem reflects_of_find? {A : Type u} {tag? : A → Option T} {answer : A → H} {calls : List A}
    (hnodup : es.tags.Nodup) (htags : es.tags = registeredTags tag? calls)
    (hfind : ∀ t, es.find? t = (lastCall tag? calls t).map answer) :
    es.Reflects tag? answer calls where
  tags_nodup := hnodup
  tags_eq := htags
  holds_last entry hentry := by
    have hlast := find?_of_mem hnodup hentry
    rw [hfind, Option.map_eq_some_iff] at hlast
    obtain ⟨call, hcall, hanswer⟩ := hlast
    exact ⟨call, hcall, tag?_of_lastCall hcall, hanswer⟩
  contains_iff t := by rw [← isSome_find?, Option.isSome_iff_exists]
  only t k hk := filter_of_find? hnodup hk

/-! ## Other entries -/

/-- Place by place the entries have the same tags, and the same handlers but perhaps for one tag. -/
def AgreeOff (t? : Option T) (es es' : Entries T H) : Prop :=
  List.Forall₂ (fun entry entry' => entry.1 = entry'.1 ∧ (t? ≠ some entry.1 → entry.2 = entry'.2))
    es.toList es'.toList

/-- Entries that agree still agree when a handler is registered in both. -/
theorem AgreeOff.insert {t? : Option T} (h : AgreeOff t? es es') (u : T) (k : H) :
    AgreeOff t? (es.insert u k) (es'.insert u k) := by
  obtain ⟨entries⟩ := es
  obtain ⟨entries'⟩ := es'
  simp only [AgreeOff, Entries.insert] at h ⊢
  induction h with
  | nil => exact .cons ⟨rfl, fun _ => rfl⟩ .nil
  | @cons entry entry' rest rest' hentry hrest ih =>
    obtain ⟨t, k₁⟩ := entry
    obtain ⟨t', k₂⟩ := entry'
    obtain ⟨rfl, hsame⟩ := hentry
    by_cases ht : t = u
    · subst ht
      rw [insertInto, insertInto, if_pos rfl, if_pos rfl]
      exact .cons ⟨rfl, fun _ => rfl⟩ hrest
    · rw [insertInto, insertInto, if_neg ht, if_neg ht]
      exact .cons ⟨rfl, hsame⟩ ih

end Entries

/-! ## Exhaustive tables -/

namespace Table

variable [Tagged V T] [DecidableEq T] [Tag T]

/-- A call for a tag registers what it lets the table run, and a call for no tag nothing. -/
theorem entries_register (table : Table ε σ V T R) (call : Registration ε σ V T R) :
    (table.register call).entries =
      match call.tag? with
      | some t => table.entries.insert t call.answer
      | none => table.entries := by
  cases call <;> rfl

theorem tags_nodup_ofRegistrations (calls : List (Registration ε σ V T R)) :
    (ofRegistrations calls).entries.tags.Nodup := by
  induction calls using List.reverseRecOn with
  | nil => exact List.nodup_nil
  | append_singleton calls call ih =>
    rw [ofRegistrations_append_singleton, entries_register]
    cases call.tag? with
    | none => exact ih
    | some t => exact Entries.nodup_tags_insert ih t call.answer

/-- The tags of a table stand in the order of their first calls. -/
theorem tags_ofRegistrations (calls : List (Registration ε σ V T R)) :
    (ofRegistrations calls).entries.tags = registeredTags Registration.tag? calls := by
  induction calls using List.reverseRecOn with
  | nil => rfl
  | append_singleton calls call ih =>
    rw [ofRegistrations_append_singleton, entries_register]
    cases htag : call.tag? with
    | none => rw [registeredTags_append_of_none htag, ih]
    | some t => rw [registeredTags_append_of_some htag, Entries.tags_insert, ih]

theorem reflects_ofRegistrations (calls : List (Registration ε σ V T R)) :
    (ofRegistrations calls).entries.Reflects Registration.tag? Registration.answer calls :=
  Entries.reflects_of_find? (tags_nodup_ofRegistrations calls) (tags_ofRegistrations calls)
    (find?_ofRegistrations calls)

/-- A table falls back exactly if one of the calls sets a fallback. -/
theorem isSome_fallback_ofRegistrations (calls : List (Registration ε σ V T R)) :
    (ofRegistrations calls).fallback.isSome = calls.any fun call => call.fallback?.isSome := by
  induction calls using List.reverseRecOn with
  | nil => rfl
  | append_singleton calls call ih =>
    rw [ofRegistrations_append_singleton, fallback_register, Option.isSome_or, ih, List.any_append,
      List.any_cons, List.any_nil, Bool.or_false, Bool.or_comm]

end Table

/-! ## Partial tables -/

namespace PartialRegistration

/-- What the call lets a table run on a value. -/
def answer [Tagged V T] [Tag T] : PartialRegistration ε σ V T R → V → Act ε σ (Option R)
  | handle p handler, v => do
    let x ← p.demand v
    let r ← handler x
    pure (some r)
  | openChain cs, v => cs.leaveOpen.run v
  | closedChain cs default, v => (cs.close default).toOpen.run v
  | orElse f, _ => do
    let r ← f
    pure (some r)

theorem answer_optional [Tagged V T] [Tag T] (call : PartialRegistration ε σ V T R) :
    call.optional.answer = call.answer := by
  funext v
  cases call with
  | handle p handler => simp only [optional, Registration.answer, answer, bind_pure_comp]
  | openChain cs =>
    simp only [optional, Registration.answer, answer, Cases.close, Cases.leaveOpen, Cases.optional,
      runCases?_eq_runCases]
  | closedChain cs default =>
    simp only [optional, Registration.answer, answer, Cases.close, ClosedChain.toOpen,
      Cases.optional, bind_pure_comp, map_bind, map_runCases]
  | orElse f => simp only [optional, Registration.answer, answer, bind_pure_comp]

end PartialRegistration

namespace PartialTable

variable [Tagged V T] [DecidableEq T] [Tag T]

/-- The entries are those of the exhaustive table with optional results. -/
theorem entries_ofRegistrations (calls : List (PartialRegistration ε σ V T R)) :
    (ofRegistrations calls).entries =
      (Table.ofRegistrations (calls.map PartialRegistration.optional)).entries :=
  congrArg Table.entries (toTable_ofRegistrations calls)

omit [Tagged V T] [Tag T] in
theorem registeredTags_map_optional (calls : List (PartialRegistration ε σ V T R)) :
    registeredTags Registration.tag? (calls.map PartialRegistration.optional) =
      registeredTags PartialRegistration.tag? calls :=
  registeredTags_map PartialRegistration.tag?_optional

theorem reflects_ofRegistrations (calls : List (PartialRegistration ε σ V T R)) :
    (ofRegistrations calls).entries.Reflects PartialRegistration.tag? PartialRegistration.answer
      calls := by
  refine Entries.reflects_of_find? ?_ ?_ fun t => ?_
  · rw [entries_ofRegistrations]
    exact Table.tags_nodup_ofRegistrations _
  · rw [entries_ofRegistrations, Table.tags_ofRegistrations, registeredTags_map_optional]
  · rw [find?_ofRegistrations]
    simp only [PartialRegistration.answer_optional]

/-- A partial table falls back exactly if one of the calls sets a fallback. -/
theorem isSome_fallback_ofRegistrations (calls : List (PartialRegistration ε σ V T R)) :
    (ofRegistrations calls).fallback.isSome = calls.any fun call => call.fallback?.isSome := by
  induction calls using List.reverseRecOn with
  | nil => rfl
  | append_singleton calls call ih =>
    have hfallback : ((ofRegistrations calls).register call).fallback =
        call.fallback?.or (ofRegistrations calls).fallback := by
      cases call <;> rfl
    rw [ofRegistrations_append_singleton, hfallback, Option.isSome_or, ih, List.any_append,
      List.any_cons, List.any_nil, Bool.or_false, Bool.or_comm]

end PartialTable

/-! ## Both kinds of table -/

end TagDispatch
