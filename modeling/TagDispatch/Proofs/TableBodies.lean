import TagDispatch.Proofs.Rules
import TagDispatch.TableBody

/-!
# The bodies that are read

The rules of a body denote its words, part by part, and no reading by them ever has a choice: behind
a comma three ways are open, to one more entry, to the entry for everything else and to the end, and
the next word tells them apart. So a list of words is read exactly if it is the words of a body with
some entry (`TableBody.ofWords?_eq_some_iff`).
-/

namespace TagDispatch.TableBody

open Rule

universe u

variable {E : Type u}

/-! ## What is kept -/

/-- The body has an entry, if only the one for everything else. -/
def Nonempty (body : TableBody (E × E) E) : Prop := body.arms ≠ [] ∨ body.rest ≠ none

/-- What is kept of an entry. -/
def entryKept (arm : E × E) : List (BodyHole × E) := [(.pattern, arm.1), (.handler, arm.2)]

/-- What is kept of a body. -/
def kept (body : TableBody (E × E) E) : List (BodyHole × E) :=
  body.arms.flatMap entryKept ++ body.rest.toList.map (BodyHole.rest, ·)

theorem keptAs_kept (name : BodyHole) (body : TableBody (E × E) E) :
    keptAs name body.kept =
      body.arms.flatMap (fun arm => keptAs name (entryKept arm)) ++
        body.rest.toList.flatMap fun f => keptAs name [(.rest, f)] := by
  simp only [kept, keptAs, List.filter_append, List.map_append, List.filter_flatMap,
    List.map_flatMap]
  cases body.rest <;> simp

/-- A body is found again in what is kept of it. -/
theorem ofKept_kept (body : TableBody (E × E) E) : ofKept body.kept = body := by
  have hpatterns : keptAs .pattern body.kept = body.arms.map (·.1) := by
    rw [keptAs_kept]
    simp [keptAs, entryKept, List.map_eq_flatMap]
  have hhandlers : keptAs .handler body.kept = body.arms.map (·.2) := by
    rw [keptAs_kept]
    simp [keptAs, entryKept, List.map_eq_flatMap]
  have hrest : keptAs .rest body.kept = body.rest.toList := by
    rw [keptAs_kept]
    simp [keptAs, entryKept]
  rw [ofKept, hpatterns, hhandlers, hrest, Option.head?_toList]
  exact congrArg (TableBody.mk · body.rest) (List.zip_of_prod rfl rfl).symm

/-! ## What the rules denote -/

theorem denotes_entry : entry.Denotes (E := E) entryWords entryKept := by
  refine ⟨fun {rest words kept} => ?_⟩
  constructor
  · intro hentry
    obtain ⟨p, _, _, rfl, rfl, harrow⟩ := fits_hole_iff.mp hentry
    obtain ⟨_, rfl, hhandler⟩ := fits_mark_iff.mp harrow
    obtain ⟨h, more, kept', rfl, rfl, hrest⟩ := fits_hole_iff.mp hhandler
    exact ⟨(p, h), more, kept', rfl, rfl, hrest⟩
  · rintro ⟨⟨p, h⟩, more, kept', rfl, rfl, hrest⟩
    exact .hole .pattern p (.mark .arrow (.hole .handler h hrest))

theorem denotes_otherwise : otherwise.Denotes (E := E) otherwiseWords fun f => [(.rest, f)] := by
  refine ⟨fun {rest words kept} => ?_⟩
  constructor
  · intro hotherwise
    obtain ⟨_, rfl, harrow⟩ := fits_mark_iff.mp hotherwise
    obtain ⟨_, rfl, hhandler⟩ := fits_mark_iff.mp harrow
    obtain ⟨f, more, kept', rfl, rfl, hrest⟩ := fits_hole_iff.mp hhandler
    exact ⟨f, more, kept', rfl, rfl, hrest⟩
  · rintro ⟨f, more, kept', rfl, rfl, hrest⟩
    exact .mark .otherwise (.mark .arrow (.hole .rest f hrest))

theorem intercalate_cons {α : Type u} (separator first : List α) (others : List (List α)) :
    separator.intercalate (first :: others) =
      first ++ others.flatMap fun other => separator ++ other := by
  induction others generalizing first with
  | nil => simp
  | cons other others ih => simp [List.intercalate_cons_cons, ih]

/-- Behind the first entry stand more entries, each behind a comma. -/
theorem words_cons (arm : E × E) (arms : List (E × E)) (rest : Option E) (trailing : Bool) :
    words ⟨arm :: arms, rest⟩ trailing =
      entryWords arm ++ ((arms.flatMap fun arm => .mark .comma :: entryWords arm) ++
        (rest.elim [] (fun f => .mark .comma :: otherwiseWords f) ++
          if trailing then [.mark .comma] else [])) := by
  rw [words, List.map_cons, List.cons_append, intercalate_cons]
  cases rest <;> simp [List.flatMap_map]

theorem fits_alone_iff {words : List (Word BodyMark E)} {kept : List (BodyHole × E)} :
    Fits alone words kept ↔
      ∃ body : TableBody (E × E) E, (body.arms = [] ∧ body.rest ≠ none) ∧ body.kept = kept ∧
        ∃ trailing, body.words trailing = words := by
  have hrule := denotes_otherwise.append (denotes_mark (E := E) (m := BodyMark.comma)).perhaps
  rw [alone, hrule.fits_iff]
  constructor
  · rintro ⟨⟨f, trailing⟩, rfl, rfl⟩
    refine ⟨⟨[], some f⟩, ⟨rfl, nofun⟩, ?_, trailing.isSome, ?_⟩
    · cases trailing <;> rfl
    · cases trailing <;> rfl
  · rintro ⟨⟨_, _ | f⟩, ⟨rfl, hrest⟩, rfl, trailing, rfl⟩
    · exact absurd rfl hrest
    · refine ⟨⟨f, if trailing then some () else none⟩, ?_, ?_⟩
      · cases trailing <;> rfl
      · cases trailing <;> rfl

theorem fits_entries_iff {words : List (Word BodyMark E)} {kept : List (BodyHole × E)} :
    Fits entries words kept ↔
      ∃ body : TableBody (E × E) E, body.arms ≠ [] ∧ body.kept = kept ∧
        ∃ trailing, body.words trailing = words := by
  have hcomma := denotes_mark (N := BodyHole) (E := E) (m := BodyMark.comma)
  have hrule := denotes_entry.append ((denotes_entry.again BodyMark.comma).append
    ((hcomma.append denotes_otherwise).perhaps.append hcomma.perhaps))
  refine hrule.fits_iff.trans ?_
  -- the first entry stands apart in the rule, and so it does in `words_cons`
  constructor
  · rintro ⟨⟨arm, arms, rest, trailing⟩, rfl, rfl⟩
    refine ⟨⟨arm :: arms, rest.map (·.2)⟩, nofun, ?_, trailing.isSome, ?_⟩
    · cases rest <;> cases trailing <;> simp [kept]
    · rw [words_cons]
      cases rest <;> cases trailing <;> rfl
  · rintro ⟨⟨_ | ⟨arm, arms⟩, rest⟩, hne, rfl, trailing, rfl⟩
    · exact absurd rfl hne
    · refine ⟨⟨arm, arms, rest.map ((), ·), if trailing then some () else none⟩, ?_, ?_⟩
      · rw [words_cons]
        cases rest <;> cases trailing <;> rfl
      · cases rest <;> cases trailing <;> simp [kept]

/-! ## What reading passes -/

/-- What may stand behind an entry. -/
def behindEntry : Rule BodyMark BodyHole :=
  [.again .comma entry, .perhaps (.mark .comma :: otherwise), .perhaps [.mark .comma]]

/-- The open ways in the course of reading a body. -/
inductive Midway : List (Way BodyMark BodyHole E) → Prop
  | nowhere : Midway []
  /-- Some parts of an entry are read. -/
  | inEntry (n : Nat) (kept) : Midway [⟨entry.drop n ++ behindEntry, kept⟩]
  /-- Some parts of the entry for everything else are read. -/
  | inOtherwise (n : Nat) (kept) : Midway [⟨otherwise.drop n ++ [.perhaps [.mark .comma]], kept⟩]
  /-- A comma is read: the end may follow, the entry for everything else, or one more entry. -/
  | behindComma (kept) : Midway [⟨[], kept⟩, ⟨alone, kept⟩, ⟨entries, kept⟩]
  | ended (kept) : Midway [⟨[], kept⟩]

theorem ahead_entries :
    entries.ahead = [.hole .pattern (entry.drop 1 ++ behindEntry)] := by
  simp [entries, onceOrMore, entry, behindEntry, ahead]

theorem ahead_alone :
    alone.ahead = [.mark .otherwise (otherwise.drop 1 ++ [.perhaps [.mark .comma]])] := by
  simp [alone, otherwise, ahead]

theorem ahead_behindEntry :
    behindEntry.ahead = [.done, .mark .comma [], .mark .comma alone, .mark .comma entries] := by
  simp [behindEntry, ahead, alone, entries, onceOrMore]

theorem ahead_trailing :
    ahead ([.perhaps [.mark .comma]] : Rule BodyMark BodyHole) = [.done, .mark .comma []] := by
  simp [ahead]

namespace Midway

variable {ways : List (Way BodyMark BodyHole E)}

theorem passMark (h : Midway ways) (m : BodyMark) : Midway (ways.flatMap (Way.passMark m)) := by
  cases h with
  | nowhere => exact .nowhere
  | inEntry n kept =>
    rcases n with _ | _ | _ | n
    · simp [Way.passMark, ahead, entry, nowhere]
    · cases m with
      | arrow => simpa [Way.passMark, ahead, entry] using inEntry 2 kept
      | comma | otherwise => simp [Way.passMark, ahead, entry, nowhere]
    · simp [Way.passMark, ahead, entry, nowhere]
    · cases m with
      | comma => simpa [Way.passMark, ahead_behindEntry, entry] using behindComma kept
      | arrow | otherwise => simp [Way.passMark, ahead_behindEntry, entry, nowhere]
  | inOtherwise n kept =>
    rcases n with _ | _ | _ | n
    · cases m with
      | otherwise => simpa [Way.passMark, ahead, otherwise] using inOtherwise 1 kept
      | arrow | comma => simp [Way.passMark, ahead, otherwise, nowhere]
    · cases m with
      | arrow => simpa [Way.passMark, ahead, otherwise] using inOtherwise 2 kept
      | comma | otherwise => simp [Way.passMark, ahead, otherwise, nowhere]
    · simp [Way.passMark, ahead, otherwise, nowhere]
    · cases m with
      | comma => simpa [Way.passMark, ahead_trailing, otherwise] using ended kept
      | arrow | otherwise => simp [Way.passMark, ahead_trailing, otherwise, nowhere]
  | behindComma kept =>
    cases m with
    | otherwise => simpa [Way.passMark, ahead, ahead_alone, ahead_entries] using inOtherwise 1 kept
    | arrow | comma => simp [Way.passMark, ahead, ahead_alone, ahead_entries, nowhere]
  | ended kept => simp [Way.passMark, ahead, nowhere]

theorem passExpr (h : Midway ways) (e : E) : ways.flatMap (Way.passExpr e) = [] ∨
    ∃ way, ways.flatMap (Way.passExpr e) = [way] ∧ Midway [way] := by
  cases h with
  | nowhere => exact .inl rfl
  | inEntry n kept =>
    rcases n with _ | _ | _ | n
    · refine .inr ⟨_, ?_, inEntry 1 (kept ++ [(.pattern, e)])⟩
      simp [Way.passExpr, ahead, entry]
    · exact .inl (by simp [Way.passExpr, ahead, entry])
    · refine .inr ⟨_, ?_, inEntry 3 (kept ++ [(.handler, e)])⟩
      simp [Way.passExpr, ahead, entry]
    · exact .inl (by simp [Way.passExpr, ahead_behindEntry, entry])
  | inOtherwise n kept =>
    rcases n with _ | _ | _ | n
    · exact .inl (by simp [Way.passExpr, ahead, otherwise])
    · exact .inl (by simp [Way.passExpr, ahead, otherwise])
    · refine .inr ⟨_, ?_, inOtherwise 3 (kept ++ [(.rest, e)])⟩
      simp [Way.passExpr, ahead, otherwise]
    · exact .inl (by simp [Way.passExpr, ahead_trailing, otherwise])
  | behindComma kept =>
    refine .inr ⟨_, ?_, inEntry 1 (kept ++ [(.pattern, e)])⟩
    simp [Way.passExpr, ahead, ahead_alone, ahead_entries]
  | ended kept => exact .inl (by simp [Way.passExpr, ahead])

theorem passEnd (h : Midway ways) :
    ways.flatMap Way.passEnd = [] ∨ ∃ kept, ways.flatMap Way.passEnd = [kept] := by
  cases h with
  | nowhere => exact .inl rfl
  | inEntry n kept =>
    rcases n with _ | _ | _ | n
    · exact .inl (by simp [Way.passEnd, ahead, entry])
    · exact .inl (by simp [Way.passEnd, ahead, entry])
    · exact .inl (by simp [Way.passEnd, ahead, entry])
    · exact .inr ⟨kept, by simp [Way.passEnd, ahead_behindEntry, entry]⟩
  | inOtherwise n kept =>
    rcases n with _ | _ | _ | n
    · exact .inl (by simp [Way.passEnd, ahead, otherwise])
    · exact .inl (by simp [Way.passEnd, ahead, otherwise])
    · exact .inl (by simp [Way.passEnd, ahead, otherwise])
    · exact .inr ⟨kept, by simp [Way.passEnd, ahead_trailing, otherwise]⟩
  | behindComma kept =>
    exact .inr ⟨kept, by simp [Way.passEnd, ahead, ahead_alone, ahead_entries]⟩
  | ended kept => exact .inr ⟨kept, by simp [Way.passEnd, ahead]⟩

theorem definite : Way.Definite (Midway (E := E)) := ⟨passMark, passExpr, passEnd⟩

end Midway

/-! ## Reading -/

/-- Words that begin with the mark of everything else do not begin with a pattern. -/
theorem rules_apart (words : List (Word BodyMark E)) :
    rules.Pairwise fun rule rule' =>
      ∀ kept kept' : List (BodyHole × E), rule.Fits words kept → ¬ rule'.Fits words kept' := by
  refine List.pairwise_pair.mpr fun kept kept' halone hentries => ?_
  obtain ⟨more, rfl, -⟩ := fits_mark_iff.mp halone
  obtain ⟨e, _, _, hwords, -⟩ := fits_hole_iff.mp hentries
  cases hwords

/-- The words that fit the rules are those of the bodies with an entry. -/
theorem fits_rules_iff {words : List (Word BodyMark E)} {kept : List (BodyHole × E)} :
    (∃ rule ∈ rules, rule.Fits words kept) ↔
      ∃ body : TableBody (E × E) E, body.Nonempty ∧ body.kept = kept ∧
        ∃ trailing, body.words trailing = words := by
  rw [rules, List.exists_mem_cons_iff, List.exists_mem_cons_iff, fits_alone_iff, fits_entries_iff]
  constructor
  · rintro (⟨body, ⟨-, hrest⟩, hbody⟩ | ⟨body, harms, hbody⟩ | ⟨rule, hrule, -⟩)
    · exact ⟨body, .inr hrest, hbody⟩
    · exact ⟨body, .inl harms, hbody⟩
    · cases hrule
  · rintro ⟨body, hnonempty, hbody⟩
    by_cases harms : body.arms = []
    · exact .inl ⟨body, ⟨harms, hnonempty.resolve_left (not_not_intro harms)⟩, hbody⟩
    · exact .inr (.inl ⟨body, harms, hbody⟩)

/-- Words are read as a body exactly if it has an entry and they are its words, with or without a
comma at the end. -/
theorem ofWords?_eq_some_iff (words : List (Word BodyMark E)) (body : TableBody (E × E) E) :
    ofWords? words = some body ↔ body.Nonempty ∧ ∃ trailing, body.words trailing = words := by
  have hstart : ∀ rule ∈ rules, Midway [(⟨rule, []⟩ : Way BodyMark BodyHole E)] :=
    List.forall_mem_cons.mpr ⟨.inOtherwise 0 [], List.forall_mem_singleton.mpr (.inEntry 0 [])⟩
  rw [ofWords?, Option.map_eq_some_iff]
  constructor
  · rintro ⟨kept, hread, rfl⟩
    rw [readFirst?_eq_some_iff Midway.definite hstart (rules_apart words), fits_rules_iff] at hread
    obtain ⟨body, hnonempty, rfl, hwords⟩ := hread
    rw [ofKept_kept]
    exact ⟨hnonempty, hwords⟩
  · rintro ⟨hnonempty, hwords⟩
    refine ⟨body.kept, ?_, ofKept_kept body⟩
    rw [readFirst?_eq_some_iff Midway.definite hstart (rules_apart words), fits_rules_iff]
    exact ⟨body, hnonempty, rfl, hwords⟩

/-- The entry for everything else stands behind the others. -/
example : ofWords? (otherwiseWords 1 ++ .mark .comma :: entryWords (2, 3)) = none := by cbv

/-- A second comma at the end is one too many. -/
example : ofWords? (words ⟨[(1, 2)], none⟩ true ++ [.mark .comma]) = none := by cbv

end TagDispatch.TableBody
