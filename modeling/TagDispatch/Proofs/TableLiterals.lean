import TagDispatch.Proofs.Arms
import TagDispatch.Proofs.Places
import TagDispatch.Proofs.TableBodies

/-!
# Table literals and the calls behind them

A table literal denotes the table that calls build: one call for each of its entries, in their
order, and one for the entry for everything else. What its expressions mean is taken as given, an
arm for each pattern with its handler, and a literal in which an expression has no meaning denotes
no table.

How the table of a body runs is said once for both kinds of table, in `TableBody.Governs`.
-/

namespace TagDispatch

universe u

variable {ε σ V T R O : Type} {E : Type u}

namespace TableBody

variable {body : TableBody (Arm ε σ V T R) (Act ε σ R)}

/-! ## Bodies that words mean -/

/-- The words are those of a body with an entry, and this is what its expressions mean. -/
def IsMeantBy {A F : Type*} (meant : TableBody A F) (arm? : E × E → Option A)
    (rest? : E → Option F) (words : List (Word BodyMark E)) : Prop :=
  ∃ body : TableBody (E × E) E, body.Nonempty ∧ (∃ trailing, body.words trailing = words) ∧
    body.mean? arm? rest? = some meant

/-- A literal denotes what is built from the body that it means. -/
theorem literal?_eq_some_iff {A F B : Type*} {arm? : E × E → Option A} {rest? : E → Option F}
    {empty : B} {on : B → A → B} {fallback : B → F → B} {words : List (Word BodyMark E)} {b : B} :
    literal? arm? rest? empty on fallback words = some b ↔
      ∃ meant : TableBody A F, meant.IsMeantBy arm? rest? words ∧
        meant.build empty on fallback = b := by
  rw [literal?, Option.map_eq_some_iff]
  constructor
  · rintro ⟨meant, hmeant, rfl⟩
    obtain ⟨body, hbody, hmean⟩ := Option.bind_eq_some_iff.mp hmeant
    obtain ⟨hnonempty, hwords⟩ := (ofWords?_eq_some_iff words body).mp hbody
    exact ⟨meant, ⟨body, hnonempty, hwords, hmean⟩, rfl⟩
  · rintro ⟨meant, ⟨body, hnonempty, hwords, hmean⟩, rfl⟩
    have hbody := (ofWords?_eq_some_iff words body).mpr ⟨hnonempty, hwords⟩
    exact ⟨meant, Option.bind_eq_some_iff.mpr ⟨body, hbody, hmean⟩, rfl⟩

/-! ## The calls of a body -/

section Calls

variable {A : Type 1} {tag? : A → Option T} {entry : Arm ε σ V T R → A} {orElse : Act ε σ R → A}
variable {earlier later : List (Arm ε σ V T R)} {a : Arm ε σ V T R} {f : Act ε σ R} {t : T}

/-- A call for each entry of the body, and one for the handler of everything else. -/
def calls (entry : Arm ε σ V T R → A) (orElse : Act ε σ R → A)
    (body : TableBody (Arm ε σ V T R) (Act ε σ R)) : List A :=
  body.arms.map entry ++ body.rest.toList.map orElse

/-- The tags of the entries, each once, in the order in which they first occur. -/
def tags [DecidableEq T] (body : TableBody (Arm ε σ V T R) (Act ε σ R)) : List T :=
  (body.arms.map fun a => a.pattern.tag).eraseDups

/-- To build from a body is to make its calls. -/
theorem build_eq_foldl {B : Type} (register : B → A → B) (entry : Arm ε σ V T R → A)
    (orElse : Act ε σ R → A) (empty : B) (body : TableBody (Arm ε σ V T R) (Act ε σ R)) :
    body.build empty (fun b a => register b (entry a)) (fun b f => register b (orElse f)) =
      (body.calls entry orElse).foldl register empty := by
  rw [calls, List.foldl_append, List.foldl_map, List.foldl_map, build]
  cases body.rest <;> rfl

theorem calls_ne (htag : ∀ a, tag? (entry a) = some a.pattern.tag)
    (hrest : ∀ f, tag? (orElse f) = none) (hnone : ∀ a ∈ body.arms, a.pattern.tag ≠ t) :
    ∀ call ∈ body.calls entry orElse, tag? call ≠ some t := by
  unfold calls
  rw [List.forall_mem_append, List.forall_mem_map, List.forall_mem_map]
  constructor
  · intro a ha h
    exact hnone a ha (Option.some.inj ((htag a).symm.trans h))
  · intro f _
    rw [hrest]
    exact nofun

variable [DecidableEq T]

/-- The calls of a body are for the tags of its entries. -/
theorem registeredTags_calls (htag : ∀ a, tag? (entry a) = some a.pattern.tag)
    (hrest : ∀ f, tag? (orElse f) = none) (body : TableBody (Arm ε σ V T R) (Act ε σ R)) :
    registeredTags tag? (body.calls entry orElse) = body.tags := by
  have harms : (body.arms.map entry).filterMap tag? = body.arms.map fun a => a.pattern.tag := by
    rw [List.filterMap_map, ← List.filterMap_eq_map]
    exact congrArg (body.arms.filterMap ·) (funext htag)
  have hnone : (body.rest.toList.map orElse).filterMap tag? = [] := by
    simp [hrest]
  rw [registeredTags, calls, List.filterMap_append, harms, hnone, List.append_nil, tags]

/-- The last call for a tag is that of the last entry with it. -/
theorem lastCall_calls (htag : ∀ a, tag? (entry a) = some a.pattern.tag)
    (hrest : ∀ f, tag? (orElse f) = none) (harms : body.arms = earlier ++ a :: later)
    (ha : a.pattern.tag = t) (hlater : ∀ b ∈ later, b.pattern.tag ≠ t) :
    lastCall tag? (body.calls entry orElse) t = some (entry a) := by
  rw [lastCall_eq_some_iff]
  refine ⟨by rw [htag, ha], earlier.map entry, calls entry orElse ⟨later, body.rest⟩, ?_, ?_⟩
  · simp [calls, harms]
  · exact calls_ne htag hrest hlater

/-- Without an entry for a tag there is no call for it. -/
theorem lastCall_calls_eq_none (htag : ∀ a, tag? (entry a) = some a.pattern.tag)
    (hrest : ∀ f, tag? (orElse f) = none) (hnone : ∀ a ∈ body.arms, a.pattern.tag ≠ t) :
    lastCall tag? (body.calls entry orElse) t = none :=
  lastCall_eq_none_iff.mpr (calls_ne htag hrest hnone)

omit [DecidableEq T] in
/-- The last fallback is the handler of everything else. -/
theorem fallback_calls {fallback? : A → Option (Act ε σ R)}
    (hfallback : ∀ f, fallback? (orElse f) = some f) (hrest : body.rest = some f) :
    (body.calls entry orElse).findSomeRev? fallback? = some f := by
  rw [calls, hrest, Option.toList_some, List.map_singleton, findSomeRev?_append_singleton,
    hfallback, Option.some_or]

omit [DecidableEq T] in
/-- A call sets a fallback exactly if there is a handler of everything else. -/
theorem any_fallback_calls {fallback? : A → Option (Act ε σ R)}
    (hentry : ∀ a, fallback? (entry a) = none) (hfallback : ∀ f, fallback? (orElse f) = some f)
    (body : TableBody (Arm ε σ V T R) (Act ε σ R)) :
    ((body.calls entry orElse).any fun call => (fallback? call).isSome) = body.rest.isSome := by
  rw [calls, List.any_append, List.any_map, List.any_map]
  cases body.rest <;> simp [Function.comp_def, hentry, hfallback]

end Calls

/-! ## How a table of a body runs -/

/-- A value goes to the last of the entries with its tag, and a value without such an entry to the
handler of everything else. -/
structure Governs [Tagged V T] [Tag T] (body : TableBody (Arm ε σ V T R) (Act ε σ R))
    (dispatch : V → Act ε σ O) (answer : Act ε σ R → Act ε σ O) : Prop where
  last : ∀ {v earlier a later}, body.arms = earlier ++ a :: later → a.pattern.tag = tag v →
    (∀ b ∈ later, b.pattern.tag ≠ tag v) →
    dispatch v = Act.notice (.dispatch (Tag.name (tag v))) >>= fun _ =>
      answer (a.pattern.demand v >>= a.handler)
  rest : ∀ {v f}, body.rest = some f → (∀ a ∈ body.arms, a.pattern.tag ≠ tag v) →
    dispatch v = Act.notice (.fallback (Tag.name (tag v))) >>= fun _ => answer f

/-- The tags of the entries are covered, and all tags are if there is a handler of everything else.
The tags are shown in the order in which they first occur. -/
structure Listed [DecidableEq T] [Tag T] (body : TableBody (Arm ε σ V T R) (Act ε σ R))
    (kind : String) (uncovered : List T → List T) (shown : Dump) : Prop where
  uncovered : ∀ tags, uncovered tags =
    if body.rest.isSome then [] else tags.filter fun t => t ∉ body.tags
  shown : shown = tableDump kind (body.tags.map Tag.name) body.rest.isSome

end TableBody

variable [Tagged V T] [DecidableEq T] [Tag T]

namespace Table

/-- The exhaustive table that a literal denotes. -/
def literal? (arm? : E × E → Option (Arm ε σ V T R)) (rest? : E → Option (Act ε σ R))
    (words : List (Word BodyMark E)) : Option (Table ε σ V T R) :=
  TableBody.literal? arm? rest? .empty (fun table a => table.handle a.pattern a.handler) orElse
    words

/-- The table that the calls of a body build. -/
def ofBody (body : TableBody (Arm ε σ V T R) (Act ε σ R)) : Table ε σ V T R :=
  .ofRegistrations (body.calls Arm.entry .orElse)

theorem build_eq_ofBody (body : TableBody (Arm ε σ V T R) (Act ε σ R)) :
    body.build .empty (fun table a => table.handle a.pattern a.handler) orElse = ofBody body :=
  TableBody.build_eq_foldl register Arm.entry .orElse empty body

theorem governs_ofBody (body : TableBody (Arm ε σ V T R) (Act ε σ R)) :
    body.Governs (ofBody body).dispatch id where
  last harms ha hlater :=
    dispatch_of_lastCall (TableBody.lastCall_calls (fun _ => rfl) (fun _ => rfl) harms ha hlater)
  rest hrest hnone :=
    dispatch_of_fallback (TableBody.lastCall_calls_eq_none (fun _ => rfl) (fun _ => rfl) hnone)
      (TableBody.fallback_calls (fun _ => rfl) hrest)

theorem tags_ofBody (body : TableBody (Arm ε σ V T R) (Act ε σ R)) :
    (ofBody body).entries.tags = body.tags := by
  rw [ofBody, tags_ofRegistrations]
  exact TableBody.registeredTags_calls (fun _ => rfl) (fun _ => rfl) body

theorem isSome_fallback_ofBody (body : TableBody (Arm ε σ V T R) (Act ε σ R)) :
    (ofBody body).fallback.isSome = body.rest.isSome := by
  rw [ofBody, isSome_fallback_ofRegistrations]
  exact TableBody.any_fallback_calls (fun _ => rfl) (fun _ => rfl) body

theorem listed_ofBody (body : TableBody (Arm ε σ V T R) (Act ε σ R)) :
    body.Listed "Table" (ofBody body).uncovered (dump (ofBody body)) where
  uncovered tags := by
    rw [← tags_ofBody, ← isSome_fallback_ofBody, uncovered]
    simp only [Entries.contains_eq, decide_not]
  shown := by
    rw [← tags_ofBody, ← isSome_fallback_ofBody]
    rfl

end Table

namespace PartialTable

/-- The partial table that a literal denotes. -/
def literal? (arm? : E × E → Option (Arm ε σ V T R)) (rest? : E → Option (Act ε σ R))
    (words : List (Word BodyMark E)) : Option (PartialTable ε σ V T R) :=
  TableBody.literal? arm? rest? .empty (fun table a => table.handle a.pattern a.handler) orElse
    words

/-- The table that the calls of a body build. -/
def ofBody (body : TableBody (Arm ε σ V T R) (Act ε σ R)) : PartialTable ε σ V T R :=
  .ofRegistrations (body.calls Arm.partialEntry .orElse)

theorem build_eq_ofBody (body : TableBody (Arm ε σ V T R) (Act ε σ R)) :
    body.build .empty (fun table a => table.handle a.pattern a.handler) orElse = ofBody body :=
  TableBody.build_eq_foldl register Arm.partialEntry .orElse empty body

theorem governs_ofBody (body : TableBody (Arm ε σ V T R) (Act ε σ R)) :
    body.Governs (ofBody body).dispatch (some <$> ·) where
  last {v earlier a later} harms ha hlater := by
    have hlast : lastCall PartialRegistration.tag? (body.calls Arm.partialEntry .orElse) (tag v) =
        some a.partialEntry :=
      TableBody.lastCall_calls (fun _ => rfl) (fun _ => rfl) harms ha hlater
    rw [ofBody, dispatch_of_lastCall hlast, Arm.optional_answer]
    rfl
  rest hrest hnone :=
    dispatch_of_fallback (TableBody.lastCall_calls_eq_none (fun _ => rfl) (fun _ => rfl) hnone)
      (TableBody.fallback_calls (fun _ => rfl) hrest)

theorem tags_ofBody (body : TableBody (Arm ε σ V T R) (Act ε σ R)) :
    (ofBody body).entries.tags = body.tags := by
  rw [ofBody, (reflects_ofRegistrations _).tags_eq]
  exact TableBody.registeredTags_calls (fun _ => rfl) (fun _ => rfl) body

theorem isSome_fallback_ofBody (body : TableBody (Arm ε σ V T R) (Act ε σ R)) :
    (ofBody body).fallback.isSome = body.rest.isSome := by
  rw [ofBody, isSome_fallback_ofRegistrations]
  exact TableBody.any_fallback_calls (fun _ => rfl) (fun _ => rfl) body

theorem listed_ofBody (body : TableBody (Arm ε σ V T R) (Act ε σ R)) :
    body.Listed "PartialTable" (ofBody body).uncovered (dump (ofBody body)) where
  uncovered tags := by
    rw [← tags_ofBody, ← isSome_fallback_ofBody, uncovered]
    simp only [Entries.contains_eq, decide_not]
  shown := by
    rw [← tags_ofBody, ← isSome_fallback_ofBody]
    rfl

end PartialTable

/-! ## Literals and calls -/

/-- **Literals and calls.** Words are read as a body exactly if it has an entry and they are its
words, with or without a comma at the end. A literal of either kind denotes a table exactly if its
words are those of such a body and all expressions have a meaning, and the table is the one that the
calls of the body build. It sends a value to the last of the entries with its tag, and a value
without such an entry to the handler of everything else; and it lists the tags of its entries in the
order in which they first occur. -/
theorem literals_build_calls :
    (∀ (words : List (Word BodyMark E)) (body : TableBody (E × E) E),
      TableBody.ofWords? words = some body ↔
        body.Nonempty ∧ ∃ trailing, body.words trailing = words) ∧
    (∀ (arm? : E × E → Option (Arm ε σ V T R)) (rest? : E → Option (Act ε σ R))
      (words : List (Word BodyMark E)),
      (∀ table, Table.literal? arm? rest? words = some table ↔
        ∃ body, body.IsMeantBy arm? rest? words ∧ Table.ofBody body = table) ∧
      ∀ table, PartialTable.literal? arm? rest? words = some table ↔
        ∃ body, body.IsMeantBy arm? rest? words ∧ PartialTable.ofBody body = table) ∧
    ∀ body : TableBody (Arm ε σ V T R) (Act ε σ R),
      (body.Governs (Table.ofBody body).dispatch id ∧
        body.Listed "Table" (Table.ofBody body).uncovered (dump (Table.ofBody body))) ∧
      body.Governs (PartialTable.ofBody body).dispatch (some <$> ·) ∧
        body.Listed "PartialTable" (PartialTable.ofBody body).uncovered
          (dump (PartialTable.ofBody body)) := by
  refine ⟨TableBody.ofWords?_eq_some_iff,
    fun arm? rest? words => ⟨fun table => ?_, fun table => ?_⟩,
    fun body => ⟨⟨Table.governs_ofBody body, Table.listed_ofBody body⟩,
      PartialTable.governs_ofBody body, PartialTable.listed_ofBody body⟩⟩
  · rw [Table.literal?, TableBody.literal?_eq_some_iff]
    simp only [Table.build_eq_ofBody]
  · rw [PartialTable.literal?, TableBody.literal?_eq_some_iff]
    simp only [PartialTable.build_eq_ofBody]

/-! ## Circles -/

namespace Circles

open Script

/-- What the entries of a literal over circles mean, where the patterns and the handlers are
numbered. -/
def numberedArm? :
    Nat × Nat → Option (Arm String Nat (Sample.shape.Value PayloadType.Val) Sample.shape.Tag Unit)
  | (0, 0) => some ⟨circle.pattern _, fun _ => Act.panic "replaced"⟩
  | (1, 0) => some ⟨dot.pattern _, fun _ => Act.panic "dot"⟩
  | (0, 1) => some lastArm
  | _ => none

/-- What the handler of everything else means. -/
def numberedRest? (_ : Nat) : Option (Act String Nat Unit) := some (Act.panic "rest")

/-- The second entry for circles answers in the place of the first, behind a comma at the end or
not. Alone, the entry for everything else answers for every value. -/
theorem literals_build_calls_seven :
    (∀ trailing, ∃ table,
      Table.literal? numberedArm? numberedRest?
          (TableBody.words ⟨[(0, 0), (1, 0), (0, 1)], some 2⟩ trailing) = some table ∧
        table.dispatch seven 0 = ⟨.done (), 0, [.notice (.dispatch "Circle"), .wrote "circle"]⟩ ∧
        dump table = tableDump "Table" ["Circle", "Dot"] true) ∧
    ∃ table, PartialTable.literal? numberedArm? numberedRest? (TableBody.words ⟨[], some 2⟩ false) =
        some table ∧
      ∀ v, table.dispatch v =
        Act.notice (.fallback (Tag.name (tag v))) >>= fun _ => some <$> Act.panic "rest" := by
  obtain ⟨-, hliteral, hbody⟩ := literals_build_calls (E := Nat) (ε := String) (σ := Nat)
    (V := Sample.shape.Value PayloadType.Val) (T := Sample.shape.Tag) (R := Unit)
  constructor
  · intro trailing
    have hmeant : TableBody.IsMeantBy ⟨arms ++ [lastArm], some (Act.panic "rest")⟩ numberedArm?
        numberedRest? (TableBody.words ⟨[(0, 0), (1, 0), (0, 1)], some 2⟩ trailing) :=
      ⟨_, .inl (List.cons_ne_nil _ _), ⟨trailing, rfl⟩, rfl⟩
    obtain ⟨hgoverns, hlisted⟩ := (hbody ⟨arms ++ [lastArm], some (Act.panic "rest")⟩).1
    have hdispatch := hgoverns.last (v := seven) rfl rfl (List.forall_mem_nil _)
    refine ⟨_, ((hliteral _ _ _).1 _).mpr ⟨_, hmeant, rfl⟩, ?_, hlisted.shown⟩
    rw [hdispatch]
    rfl
  · have hmeant : TableBody.IsMeantBy ⟨[], some (Act.panic "rest")⟩ numberedArm? numberedRest?
        (TableBody.words ⟨[], some 2⟩ false) :=
      ⟨_, .inr (Option.some_ne_none _), ⟨false, rfl⟩, rfl⟩
    have hgoverns := (hbody ⟨[], some (Act.panic "rest")⟩).2.1
    exact ⟨_, ((hliteral _ _ _).2 _).mpr ⟨_, hmeant, rfl⟩,
      fun v => hgoverns.rest rfl (List.forall_mem_nil _)⟩

end Circles

end TagDispatch
