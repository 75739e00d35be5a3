import Mathlib.Data.List.Basic
import TagDispatch.Rule

/-!
# What reading by a rule finds

`Rule.Fits` says which words a rule admits and what it keeps of them, one constructor for each way
in which a part can be met. `Rule.Denotes` says the same of some parts of a rule by the items that
stand there, and a rule denotes what its parts do: a pair, an optional item, a list of items.

Reading knows a rule only through what may come next in it, and
`Rule.fits_iff_ahead` says that this loses nothing. So reading gives what the open ways keep
(`Way.followAll_eq_ok`), and finds a word unexpected only where no way goes on
(`Way.followAll_unexpected`).

What remains is ambiguity. It is excluded by an invariant of the open ways, `Way.Definite`; under
such an invariant reading and fitting are the same (`Rule.read_eq_ok_iff`).
-/

namespace TagDispatch

universe u v w

/-- The words fit the rule, which keeps the expressions. -/
inductive Rule.Fits {M N : Type} {E : Type u} :
    Rule M N → List (Word M E) → List (N × E) → Prop
  | done : Fits [] [] []
  | mark (m : M) {rest words kept} (h : Fits rest words kept) :
      Fits (.mark m :: rest) (.mark m :: words) kept
  | hole (name : N) (e : E) {rest words kept} (h : Fits rest words kept) :
      Fits (.hole name :: rest) (.expr e :: words) ((name, e) :: kept)
  /-- The parts that may be left out are left out. -/
  | skip {parts rest words kept} (h : Fits rest words kept) :
      Fits (.perhaps parts :: rest) words kept
  | enter {parts rest words kept} (h : Fits (parts ++ rest) words kept) :
      Fits (.perhaps parts :: rest) words kept
  /-- The repetition ends. -/
  | stop {separator parts rest words kept} (h : Fits rest words kept) :
      Fits (.again separator parts :: rest) words kept
  | once (separator : M) {parts rest words kept}
      (h : Fits (parts ++ .again separator parts :: rest) words kept) :
      Fits (.again separator parts :: rest) (.mark separator :: words) kept

variable {M N : Type} {E : Type u} {m separator : M} {name : N} {e : E}
variable {parts rest rule : Rule M N} {words : List (Word M E)} {kept : List (N × E)}

/-- The words fit what comes next and the rule behind it. -/
def Ahead.Fits : Ahead M N → List (Word M E) → List (N × E) → Prop
  | .done, words, kept => words = [] ∧ kept = []
  | .mark m rest, words, kept => ∃ more, words = .mark m :: more ∧ rest.Fits more kept
  | .hole name rest, words, kept =>
    ∃ e more kept', words = .expr e :: more ∧ kept = (name, e) :: kept' ∧ rest.Fits more kept'

namespace Rule

/-! ## The first part -/

theorem fits_nil_iff : Fits ([] : Rule M N) words kept ↔ words = [] ∧ kept = [] := by
  constructor
  · intro h
    cases h
    exact ⟨rfl, rfl⟩
  · rintro ⟨rfl, rfl⟩
    exact .done

theorem fits_mark_iff :
    Fits (.mark m :: rest) words kept ↔ ∃ more, words = .mark m :: more ∧ Fits rest more kept := by
  constructor
  · intro h
    cases h with
    | mark _ h => exact ⟨_, rfl, h⟩
  · rintro ⟨more, rfl, h⟩
    exact .mark m h

theorem fits_hole_iff :
    Fits (.hole name :: rest) words kept ↔
      ∃ e more kept', words = .expr e :: more ∧ kept = (name, e) :: kept' ∧
        Fits rest more kept' := by
  constructor
  · intro h
    cases h with
    | hole _ e h => exact ⟨e, _, _, rfl, rfl, h⟩
  · rintro ⟨e, more, kept', rfl, rfl, h⟩
    exact .hole name e h

theorem fits_perhaps_iff :
    Fits (.perhaps parts :: rest) words kept ↔
      Fits rest words kept ∨ Fits (parts ++ rest) words kept := by
  constructor
  · intro h
    cases h with
    | skip h => exact .inl h
    | enter h => exact .inr h
  · rintro (h | h)
    · exact .skip h
    · exact .enter h

theorem fits_again_iff :
    Fits (.again separator parts :: rest) words kept ↔
      Fits rest words kept ∨ ∃ more, words = .mark separator :: more ∧
        Fits (parts ++ .again separator parts :: rest) more kept := by
  constructor
  · intro h
    cases h with
    | stop h => exact .inl h
    | once _ h => exact .inr ⟨_, rfl, h⟩
  · rintro (h | ⟨more, rfl, h⟩)
    · exact .stop h
    · exact .once separator h

/-! ## Languages -/

/-- The words that fit the parts are those of some item, with what is kept of the item, whatever the
rule behind the parts is. -/
structure Denotes {A : Type v} (parts : Rule M N) (wordsOf : A → List (Word M E))
    (keptOf : A → List (N × E)) : Prop where
  fits_append_iff : ∀ {rest words kept}, Fits (parts ++ rest) words kept ↔
    ∃ item more kept', words = wordsOf item ++ more ∧ kept = keptOf item ++ kept' ∧
      Fits rest more kept'

section Denotes

variable {A : Type v} {B : Type w} {parts' : Rule M N}
variable {wordsOf : A → List (Word M E)} {keptOf : A → List (N × E)}
variable {wordsOf' : B → List (Word M E)} {keptOf' : B → List (N × E)}

theorem Denotes.fits_iff (h : parts.Denotes wordsOf keptOf) :
    parts.Fits words kept ↔ ∃ item, words = wordsOf item ∧ kept = keptOf item := by
  rw [← List.append_nil parts, h.fits_append_iff]
  constructor
  · rintro ⟨item, more, kept', rfl, rfl, hend⟩
    obtain ⟨rfl, rfl⟩ := fits_nil_iff.mp hend
    exact ⟨item, List.append_nil _, List.append_nil _⟩
  · rintro ⟨item, rfl, rfl⟩
    exact ⟨item, [], [], (List.append_nil _).symm, (List.append_nil _).symm, .done⟩

theorem denotes_mark :
    Denotes [.mark m] (fun _ : Unit => [.mark m]) fun _ => ([] : List (N × E)) := by
  refine ⟨fun {rest words kept} => ?_⟩
  rw [List.singleton_append, fits_mark_iff]
  constructor
  · rintro ⟨more, rfl, hrest⟩
    exact ⟨(), more, kept, rfl, rfl, hrest⟩
  · rintro ⟨_, more, kept', rfl, rfl, hrest⟩
    exact ⟨more, rfl, hrest⟩

theorem Denotes.append (h : parts.Denotes wordsOf keptOf) (h' : parts'.Denotes wordsOf' keptOf') :
    (parts ++ parts').Denotes (fun item : A × B => wordsOf item.1 ++ wordsOf' item.2)
      fun item => keptOf item.1 ++ keptOf' item.2 := by
  refine ⟨fun {rest words kept} => ?_⟩
  rw [List.append_assoc, h.fits_append_iff]
  constructor
  · rintro ⟨item, more, kept', rfl, rfl, hfits⟩
    obtain ⟨item', more, kept', rfl, rfl, hrest⟩ := h'.fits_append_iff.mp hfits
    exact ⟨(item, item'), more, kept', by simp, by simp, hrest⟩
  · rintro ⟨⟨item, item'⟩, more, kept', rfl, rfl, hrest⟩
    have hfits := h'.fits_append_iff.mpr ⟨item', more, kept', rfl, rfl, hrest⟩
    exact ⟨item, _, _, List.append_assoc .., List.append_assoc .., hfits⟩

theorem Denotes.perhaps (h : parts.Denotes wordsOf keptOf) :
    Denotes [.perhaps parts] (fun item : Option A => item.elim [] wordsOf)
      fun item => item.elim [] keptOf := by
  refine ⟨fun {rest words kept} => ?_⟩
  rw [List.singleton_append, fits_perhaps_iff, h.fits_append_iff]
  constructor
  · rintro (hskip | ⟨item, more, kept', rfl, rfl, hrest⟩)
    · exact ⟨none, words, kept, rfl, rfl, hskip⟩
    · exact ⟨some item, more, kept', rfl, rfl, hrest⟩
  · rintro ⟨_ | item, more, kept', rfl, rfl, hrest⟩
    · exact .inl hrest
    · exact .inr ⟨item, more, kept', rfl, rfl, hrest⟩

theorem Denotes.again (h : parts.Denotes wordsOf keptOf) (separator : M) :
    Denotes [.again separator parts]
      (fun items : List A => items.flatMap fun item => .mark separator :: wordsOf item)
      fun items => items.flatMap keptOf := by
  refine ⟨fun {rest words kept} => ?_⟩
  rw [List.singleton_append]
  constructor
  · -- each repetition takes at least its separator
    intro hfits
    induction hlength : words.length using Nat.strongRecOn generalizing words kept with
    | ind n ih =>
      obtain hstop | ⟨more, rfl, honce⟩ := fits_again_iff.mp hfits
      · exact ⟨[], words, kept, rfl, rfl, hstop⟩
      · obtain ⟨item, more, kept, rfl, rfl, hagain⟩ := h.fits_append_iff.mp honce
        have hshorter : more.length < n := by
          rw [← hlength, List.length_cons, List.length_append]
          omega
        obtain ⟨items, more, kept, rfl, rfl, hrest⟩ := ih _ hshorter hagain rfl
        exact ⟨item :: items, more, kept, by simp, by simp, hrest⟩
  · rintro ⟨items, more, kept', rfl, rfl, hrest⟩
    induction items with
    | nil => exact .stop hrest
    | cons item items ih =>
      have honce := Fits.once separator (h.fits_append_iff.mpr ⟨item, _, _, rfl, rfl, ih⟩)
      simpa using honce

end Denotes

/-! ## The first word -/

/-- Words fit a rule exactly if they fit something that may come next in it. -/
theorem fits_iff_ahead : rule.Fits words kept ↔ ∃ next ∈ rule.ahead, next.Fits words kept := by
  -- by the recursion of `ahead`, which looks past the parts that may be left out
  induction rule using ahead.induct generalizing words kept with
  | case1 => simp [ahead, fits_nil_iff, Ahead.Fits]
  | case2 m rest => simp [ahead, fits_mark_iff, Ahead.Fits]
  | case3 name rest => simp [ahead, fits_hole_iff, Ahead.Fits]
  | case4 parts rest ihskip ihenter =>
    rw [fits_perhaps_iff, ihskip, ihenter, ahead]
    simp only [List.mem_append, or_and_right, exists_or]
  | case5 separator parts rest ihstop =>
    rw [fits_again_iff, ihstop, ahead]
    simp only [List.mem_append, List.mem_singleton, or_and_right, exists_or, exists_eq_left,
      Ahead.Fits]

theorem fits_end_iff : rule.Fits ([] : List (Word M E)) kept ↔ .done ∈ rule.ahead ∧ kept = [] := by
  rw [fits_iff_ahead]
  constructor
  · rintro ⟨_ | _ | _, hnext, hfits⟩
    · exact ⟨hnext, hfits.2⟩
    · obtain ⟨_, ⟨⟩, -⟩ := hfits
    · obtain ⟨_, _, _, ⟨⟩, -⟩ := hfits
  · rintro ⟨hnext, hkept⟩
    exact ⟨_, hnext, rfl, hkept⟩

theorem fits_mark_cons_iff :
    rule.Fits (.mark m :: words) kept ↔
      ∃ rest, .mark m rest ∈ rule.ahead ∧ rest.Fits words kept := by
  rw [fits_iff_ahead]
  constructor
  · rintro ⟨_ | ⟨_, rest⟩ | _, hnext, hfits⟩
    · cases hfits.1
    · obtain ⟨_, ⟨⟩, hrest⟩ := hfits
      exact ⟨rest, hnext, hrest⟩
    · obtain ⟨_, _, _, ⟨⟩, -⟩ := hfits
  · rintro ⟨rest, hnext, hrest⟩
    exact ⟨_, hnext, words, rfl, hrest⟩

theorem fits_expr_cons_iff :
    rule.Fits (.expr e :: words) kept ↔
      ∃ name rest, .hole name rest ∈ rule.ahead ∧
        ∃ kept', kept = (name, e) :: kept' ∧ rest.Fits words kept' := by
  rw [fits_iff_ahead]
  constructor
  · rintro ⟨_ | _ | ⟨name, rest⟩, hnext, hfits⟩
    · cases hfits.1
    · obtain ⟨_, ⟨⟩, -⟩ := hfits
    · obtain ⟨_, _, kept', ⟨⟩, hkept, hrest⟩ := hfits
      exact ⟨name, rest, hnext, kept', hkept, hrest⟩
  · rintro ⟨name, rest, hnext, kept', hkept, hrest⟩
    exact ⟨_, hnext, e, words, kept', rfl, hkept, hrest⟩

theorem not_fits_stray_cons : ¬ rule.Fits (.stray :: words) kept := by
  rw [fits_iff_ahead]
  rintro ⟨_ | _ | _, -, hfits⟩
  · cases hfits.1
  · obtain ⟨_, ⟨⟩, -⟩ := hfits
  · obtain ⟨_, _, _, ⟨⟩, -⟩ := hfits

end Rule

/-! ## Open ways -/

namespace Way

variable {way next : Way M N E} {ways : List (Way M N E)}

theorem mem_passEnd : kept ∈ way.passEnd ↔ .done ∈ way.left.ahead ∧ kept = way.kept := by
  rw [passEnd, List.mem_filterMap]
  constructor
  · rintro ⟨_ | _ | _, hnext, hpass⟩ <;> cases hpass
    exact ⟨hnext, rfl⟩
  · rintro ⟨hnext, rfl⟩
    exact ⟨_, hnext, rfl⟩

theorem mem_passMark [DecidableEq M] :
    next ∈ way.passMark m ↔ ∃ rest, .mark m rest ∈ way.left.ahead ∧ next = ⟨rest, way.kept⟩ := by
  rw [passMark, List.mem_filterMap]
  constructor
  · rintro ⟨_ | ⟨m', rest⟩ | _, hnext, hpass⟩
    · cases hpass
    · obtain ⟨rfl, hway⟩ := Option.ite_none_right_eq_some.mp hpass
      exact ⟨rest, hnext, (Option.some.inj hway).symm⟩
    · cases hpass
  · rintro ⟨rest, hnext, rfl⟩
    exact ⟨_, hnext, if_pos rfl⟩

theorem mem_passExpr :
    next ∈ way.passExpr e ↔
      ∃ name rest, .hole name rest ∈ way.left.ahead ∧ next = ⟨rest, way.kept ++ [(name, e)]⟩ := by
  rw [passExpr, List.mem_filterMap]
  constructor
  · rintro ⟨_ | _ | ⟨name, rest⟩, hnext, hpass⟩ <;> cases hpass
    exact ⟨name, rest, hnext, rfl⟩
  · rintro ⟨name, rest, hnext, rfl⟩
    exact ⟨_, hnext, rfl⟩

/-- Some open way admits the words and then has kept the expressions. -/
def Admit (ways : List (Way M N E)) (words : List (Word M E)) (kept : List (N × E)) : Prop :=
  ∃ way ∈ ways, ∃ more, way.left.Fits words more ∧ kept = way.kept ++ more

theorem admit_end_iff : Admit ways [] kept ↔ kept ∈ ways.flatMap passEnd := by
  rw [List.mem_flatMap]
  constructor
  · rintro ⟨way, hway, more, hfits, rfl⟩
    obtain ⟨hdone, rfl⟩ := Rule.fits_end_iff.mp hfits
    exact ⟨way, hway, mem_passEnd.mpr ⟨hdone, List.append_nil _⟩⟩
  · rintro ⟨way, hway, hpass⟩
    obtain ⟨hdone, rfl⟩ := mem_passEnd.mp hpass
    exact ⟨way, hway, [], Rule.fits_end_iff.mpr ⟨hdone, rfl⟩, (List.append_nil _).symm⟩

theorem admit_mark_iff [DecidableEq M] :
    Admit ways (.mark m :: words) kept ↔ Admit (ways.flatMap (passMark m)) words kept := by
  constructor
  · rintro ⟨way, hway, more, hfits, rfl⟩
    obtain ⟨rest, hnext, hrest⟩ := Rule.fits_mark_cons_iff.mp hfits
    have hpass : ⟨rest, way.kept⟩ ∈ ways.flatMap (passMark m) :=
      List.mem_flatMap.mpr ⟨way, hway, mem_passMark.mpr ⟨rest, hnext, rfl⟩⟩
    exact ⟨_, hpass, more, hrest, rfl⟩
  · rintro ⟨next, hpass, more, hrest, rfl⟩
    obtain ⟨way, hway, hpass⟩ := List.mem_flatMap.mp hpass
    obtain ⟨rest, hnext, rfl⟩ := mem_passMark.mp hpass
    exact ⟨way, hway, more, Rule.fits_mark_cons_iff.mpr ⟨rest, hnext, hrest⟩, rfl⟩

theorem admit_expr_iff :
    Admit ways (.expr e :: words) kept ↔ Admit (ways.flatMap (passExpr e)) words kept := by
  constructor
  · rintro ⟨way, hway, more, hfits, rfl⟩
    obtain ⟨name, rest, hnext, more, rfl, hrest⟩ := Rule.fits_expr_cons_iff.mp hfits
    have hpass : ⟨rest, way.kept ++ [(name, e)]⟩ ∈ ways.flatMap (passExpr e) :=
      List.mem_flatMap.mpr ⟨way, hway, mem_passExpr.mpr ⟨name, rest, hnext, rfl⟩⟩
    exact ⟨_, hpass, more, hrest, by simp⟩
  · rintro ⟨next, hpass, more, hrest, rfl⟩
    obtain ⟨way, hway, hpass⟩ := List.mem_flatMap.mp hpass
    obtain ⟨name, rest, hnext, rfl⟩ := mem_passExpr.mp hpass
    have hfits : way.left.Fits (.expr e :: words) ((name, e) :: more) :=
      Rule.fits_expr_cons_iff.mpr ⟨name, rest, hnext, more, rfl, hrest⟩
    exact ⟨way, hway, _, hfits, by simp⟩

theorem not_admit_stray : ¬ Admit ways (.stray :: words) kept := by
  rintro ⟨way, -, more, hfits, -⟩
  exact Rule.not_fits_stray_cons hfits

theorem not_admit_nil : ¬ Admit ([] : List (Way M N E)) words kept := by
  rintro ⟨way, hway, -⟩
  cases hway

/-! ## Reading -/

variable [DecidableEq M]

/-- Reading gives what the open ways keep, and they keep nothing else. -/
theorem followAll_eq_ok (h : followAll ways words = .ok kept) (kept' : List (N × E)) :
    Admit ways words kept' ↔ kept' = kept := by
  -- by the branches of reading; the open ways admit what the ways behind the first word do
  fun_induction followAll ways words with
  | case2 ways kept₁ hend =>
    cases h
    rw [admit_end_iff, hend, List.mem_singleton]
  | case5 ways m words hopen ih =>
    rw [admit_mark_iff]
    exact ih h
  | case7 ways e words way hpass ih =>
    rw [admit_expr_iff, hpass]
    exact ih h
  | case1 | case3 | case4 | case6 | case8 | case9 => cases h

/-- Reading finds a word unexpected only where no way goes on. -/
theorem followAll_unexpected (h : followAll ways words = .error .unexpected) :
    ¬ Admit ways words kept := by
  fun_induction followAll ways words with
  | case1 ways hend =>
    rw [admit_end_iff, hend]
    exact List.not_mem_nil
  | case4 ways m words hnone =>
    rw [admit_mark_iff, hnone]
    exact not_admit_nil
  | case5 ways m words hopen ih =>
    rw [admit_mark_iff]
    exact ih h
  | case6 ways e words hnone =>
    rw [admit_expr_iff, hnone]
    exact not_admit_nil
  | case7 ways e words way hpass ih =>
    rw [admit_expr_iff, hpass]
    exact ih h
  | case9 => exact not_admit_stray
  | case2 | case3 | case8 => cases h

/-- An invariant of open ways under which reading never has a choice: an expression passes on one
way at most, and so does the end of the words. -/
structure Definite (Inv : List (Way M N E) → Prop) : Prop where
  passMark : ∀ {ways}, Inv ways → ∀ m, Inv (ways.flatMap (passMark m))
  passExpr : ∀ {ways}, Inv ways → ∀ e, ways.flatMap (Way.passExpr e) = [] ∨
    ∃ way, ways.flatMap (Way.passExpr e) = [way] ∧ Inv [way]
  passEnd : ∀ {ways}, Inv ways → ways.flatMap Way.passEnd = [] ∨
    ∃ kept, ways.flatMap Way.passEnd = [kept]

theorem Definite.followAll_ne_ambiguous {Inv : List (Way M N E) → Prop} (hdefinite : Definite Inv)
    (hways : Inv ways) : followAll ways words ≠ .error .ambiguous := by
  fun_induction followAll ways words with
  | case3 ways hnone hone =>
    obtain hend | ⟨kept, hend⟩ := hdefinite.passEnd hways
    · exact absurd hend hnone
    · exact absurd hend (hone kept)
  | case5 ways m words hopen ih => exact ih (hdefinite.passMark hways m)
  | case7 ways e words way hpass ih =>
    obtain hnone | ⟨way', hone, hway⟩ := hdefinite.passExpr hways e
    · cases hpass.symm.trans hnone
    · cases hpass.symm.trans hone
      exact ih hway
  | case8 ways e words hnone hone =>
    obtain hpass | ⟨way, hpass, -⟩ := hdefinite.passExpr hways e
    · exact absurd hpass hnone
    · exact absurd hpass (hone way)
  | case1 | case2 | case4 | case6 | case9 => exact nofun

end Way

namespace Rule

theorem admit_start_iff : Way.Admit [⟨rule, []⟩] words kept ↔ rule.Fits words kept := by
  simp [Way.Admit]

variable [DecidableEq M] {Inv : List (Way M N E) → Prop} {rules : List (Rule M N)}

/-- A rule finds a word unexpected only where no words fit it. -/
theorem not_fits_of_unexpected (h : rule.read words = .error .unexpected) :
    ¬ rule.Fits words kept := by
  rw [← admit_start_iff]
  exact Way.followAll_unexpected h

/-- If reading never has a choice, what it gives is what fits the rule. -/
theorem read_eq_ok_iff (hdefinite : Way.Definite Inv) (hstart : Inv [⟨rule, []⟩]) :
    rule.read words = .ok kept ↔ rule.Fits words kept := by
  constructor
  · intro h
    exact admit_start_iff.mp ((Way.followAll_eq_ok h kept).mpr rfl)
  · intro h
    cases hread : rule.read words with
    | ok kept' => rw [(Way.followAll_eq_ok hread kept).mp (admit_start_iff.mpr h)]
    | error misreading =>
      cases misreading with
      | unexpected => exact absurd h (not_fits_of_unexpected hread)
      | ambiguous => exact absurd hread (hdefinite.followAll_ne_ambiguous hstart)

/-- If reading never has a choice and no two rules are fit by the same words, the rules are tried
for the one that the words fit. -/
theorem readFirst?_eq_some_iff (hdefinite : Way.Definite Inv)
    (hstart : ∀ rule ∈ rules, Inv [⟨rule, []⟩])
    (hapart : rules.Pairwise fun rule rule' =>
      ∀ kept kept' : List (N × E), rule.Fits words kept → ¬ rule'.Fits words kept') :
    readFirst? rules words = some kept ↔ ∃ rule ∈ rules, rule.Fits words kept := by
  induction rules with
  | nil => simp [readFirst?]
  | cons rule rules ih =>
    obtain ⟨hfirst, hothers⟩ := List.pairwise_cons.mp hapart
    have hiff : rule.read words = .ok kept ↔ rule.Fits words kept :=
      read_eq_ok_iff hdefinite (hstart rule List.mem_cons_self)
    have ih := ih (fun rule' hmem => hstart rule' (List.mem_cons_of_mem rule hmem)) hothers
    rw [readFirst?, List.exists_mem_cons_iff]
    cases hread : rule.read words with
    | ok kept' =>
      have hfits : rule.Fits words kept' :=
        (read_eq_ok_iff hdefinite (hstart rule List.mem_cons_self)).mp hread
      -- no later rule is tried, and the words fit none
      have hnone : ¬ ∃ rule' ∈ rules, rule'.Fits words kept := by
        rintro ⟨rule', hmem, h⟩
        exact hfirst rule' hmem kept' kept hfits h
      rw [← hiff, hread, or_iff_left hnone, Option.some.injEq, Except.ok.injEq]
    | error misreading =>
      cases misreading with
      | unexpected => rw [or_iff_right (not_fits_of_unexpected hread), ih]
      | ambiguous =>
        exact absurd hread (hdefinite.followAll_ne_ambiguous (hstart rule List.mem_cons_self))

end Rule

end TagDispatch
