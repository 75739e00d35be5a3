import Mathlib.Data.List.TFAE
import Mathlib.Logic.Relation
import TagDispatch.Conditional
import TagDispatch.Proofs.Coverage

/-!
# Ways to a payload

A pattern is asked about a value in many ways: by the tag, by looking at the payload, by taking it,
by a conditional, and by a table. A pattern that is lawful at the value answers all of them alike:
either every way hands over the one payload, `Pattern.HandsOver`, or every way refuses it and
nothing of the caller's code for it is run, `Pattern.Refuses`.

A value that is looked at or whose payload cannot be taken is given back. `Pattern.Kept` is one such
use, and `Pattern.eq_of_kept` says that after any number of them the value is still the same.
-/

namespace TagDispatch

namespace Pattern

variable {V T P : Type} [Tagged V T] [DecidableEq T] [Tag T]
variable {p : Pattern V T P} {v : V} {x : P}

/-! ## What the ways do -/

/-- The propositions that each way to the payload of a value leads there. -/
def ways (p : Pattern V T P) (v : V) : List Prop :=
  [p.fits v = true,
    (p.peek? v).isSome = true,
    ∃ x, p.take v = .ok x,
    ∃ x, ∀ {ε σ : Type} (f : P → Act ε σ Unit), p.observe v f = do
      f x
      pure v,
    ∃ x, ∀ {ε σ R O : Type} (body : P → Act ε σ R) (branches : List (Act ε σ (Branch ε σ R)))
      (completion : Completion ε σ R O), Conditional.bound v p body branches completion = do
        let r ← body x
        completion.complete (some r),
    ∀ {ε σ R : Type} (body : P → Act ε σ R),
      ∃ action, Branch.ofPattern v p body = .bound true action,
    ∃ x, ∀ {ε σ R : Type} (handler : P → Act ε σ R) (fallback : Act ε σ R),
      (Table.ofRegistrations [.handle p handler, .orElse fallback]).dispatch v = do
        Act.notice (.dispatch (Tag.name (TagDispatch.tag v)))
        handler x]

/-- Every way to the payload of the value hands over `x`. -/
structure HandsOver (p : Pattern V T P) (v : V) (x : P) : Prop where
  fits_eq : p.fits v = true
  peek?_eq : p.peek? v = some x
  take_eq : p.take v = .ok x
  observe_eq {ε σ : Type} (f : P → Act ε σ Unit) : p.observe v f = do
    f x
    pure v
  bound_eq {ε σ R O : Type} (body : P → Act ε σ R) (branches : List (Act ε σ (Branch ε σ R)))
    (completion : Completion ε σ R O) : Conditional.bound v p body branches completion = do
      let r ← body x
      completion.complete (some r)
  branch_eq {ε σ R : Type} (body : P → Act ε σ R) : Branch.ofPattern v p body = .bound true (body x)
  dispatch_eq {ε σ R : Type} (handler : P → Act ε σ R) (fallback : Act ε σ R) :
    (Table.ofRegistrations [.handle p handler, .orElse fallback]).dispatch v = do
      Act.notice (.dispatch (Tag.name (TagDispatch.tag v)))
      handler x

/-- No way leads to a payload of the value: what is run does not depend on the code for the payload,
and where the value is given back it is the same value. -/
structure Refuses (p : Pattern V T P) (v : V) : Prop where
  fits_eq : p.fits v = false
  peek?_eq : p.peek? v = none
  take_eq : p.take v = .error v
  observe_eq {ε σ : Type} (f : P → Act ε σ Unit) : p.observe v f = pure v
  bound_eq {ε σ R O : Type} (body : P → Act ε σ R) (branches : List (Act ε σ (Branch ε σ R)))
    (completion : Completion ε σ R O) :
    Conditional.bound v p body branches completion = Conditional.rest branches completion
  branch_eq {ε σ R : Type} (body : P → Act ε σ R) :
    Branch.ofPattern v p body = .bound false (wrongBranch p.tag (TagDispatch.tag v))
  dispatch_eq {ε σ R : Type} (handler : P → Act ε σ R) (fallback : Act ε σ R) :
    (Table.ofRegistrations [.handle p handler, .orElse fallback]).dispatch v = do
      Act.notice (.fallback (Tag.name (TagDispatch.tag v)))
      fallback

/-! ## Patterns that are lawful at a value -/

omit [Tagged V T] [DecidableEq T] [Tag T] in
theorem observe_of_some {ε σ : Type} (hx : p.peek? v = some x) (f : P → Act ε σ Unit) :
    p.observe v f = f x >>= fun _ => pure v := by
  rw [observe, hx]

omit [Tagged V T] [DecidableEq T] [Tag T] in
theorem observe_of_none {ε σ : Type} (hx : p.peek? v = none) (f : P → Act ε σ Unit) :
    p.observe v f = pure v := by
  rw [observe, hx]

/-- A pattern that is lawful at a value hands over the payload that it shows. -/
theorem LawfulAt.handsOver (h : p.LawfulAt v) (hx : p.peek? v = some x) : p.HandsOver v x := by
  have htag : TagDispatch.tag v = p.tag := by
    rw [← h.peek?_isSome_iff, hx]
    rfl
  have htake : p.take v = .ok x := by
    rw [h.take_eq, hx]
    rfl
  refine
    { fits_eq := decide_eq_true htag
      peek?_eq := hx
      take_eq := htake
      observe_eq := observe_of_some hx
      bound_eq := fun body branches completion => by rw [Conditional.bound, hx]
      branch_eq := fun body => by rw [Branch.ofPattern, onPayload, hx]; rfl
      dispatch_eq := fun {ε σ R} handler fallback => ?_ }
  have hlast : lastCall Registration.tag?
      [Registration.handle p handler, .orElse fallback] (TagDispatch.tag v) =
        some (.handle p handler) :=
    lastCall_eq_some_iff.mpr
      ⟨congrArg some htag.symm, [], [.orElse fallback], rfl, by simp [Registration.tag?]⟩
  have hanswer : (Registration.handle p handler).answer v = handler x :=
    Registration.answer_of_executes (.handle htake)
  rw [Table.dispatch_of_lastCall hlast, hanswer]

/-- A pattern that is lawful at a value refuses it if it shows no payload. -/
theorem LawfulAt.refuses (h : p.LawfulAt v) (hx : p.peek? v = none) : p.Refuses v := by
  have htag : TagDispatch.tag v ≠ p.tag := by
    intro htag
    have hsome := h.peek?_isSome_iff.mpr htag
    rw [hx] at hsome
    cases hsome
  refine
    { fits_eq := decide_eq_false htag
      peek?_eq := hx
      take_eq := by rw [h.take_eq, hx]; rfl
      observe_eq := observe_of_none hx
      bound_eq := fun body branches completion => by rw [Conditional.bound, hx]
      branch_eq := fun body => by rw [Branch.ofPattern, onPayload, hx]; rfl
      dispatch_eq := fun {ε σ R} handler fallback => ?_ }
  have hlast : lastCall Registration.tag?
      [Registration.handle p handler, .orElse fallback] (TagDispatch.tag v) = none :=
    lastCall_eq_none_iff.mpr (by simp [Registration.tag?, htag.symm])
  exact Table.dispatch_of_fallback hlast rfl

theorem HandsOver.tag_eq (h : p.HandsOver v x) : p.tag = TagDispatch.tag v :=
  (of_decide_eq_true h.fits_eq).symm

theorem Refuses.tag_ne (h : p.Refuses v) : p.tag ≠ TagDispatch.tag v :=
  Ne.symm (of_decide_eq_false h.fits_eq)

/-- Where every way hands over the payload, every way leads there. -/
theorem HandsOver.ways (h : p.HandsOver v x) : ∀ way ∈ p.ways v, way := by
  simp only [Pattern.ways, List.forall_mem_cons]
  exact ⟨h.fits_eq, by rw [h.peek?_eq]; rfl, ⟨x, h.take_eq⟩, ⟨x, h.observe_eq⟩, ⟨x, h.bound_eq⟩,
    fun body => ⟨_, h.branch_eq body⟩, ⟨x, h.dispatch_eq⟩, by simp⟩

/-- Where no way leads to a payload, none does. -/
theorem Refuses.ways (h : p.Refuses v) : ∀ way ∈ p.ways v, ¬ way := by
  simp only [Pattern.ways, List.forall_mem_cons]
  -- code that panics tells a way that runs it from one that does not
  refine ⟨by simp [h.fits_eq], by simp [h.peek?_eq], ?_, ?_, ?_, ?_, ?_, by simp⟩
  · rintro ⟨x, hx⟩
    rw [h.take_eq] at hx
    cases hx
  · rintro ⟨x, hx⟩
    have hrun := congrFun (hx (ε := Unit) fun _ => Act.panic "observed") ()
    rw [h.observe_eq] at hrun
    cases hrun
  · rintro ⟨x, hx⟩
    have hrun := congrFun (hx (ε := Unit) (fun _ => Act.panic (α := Unit) "bound") [] .optional) ()
    rw [h.bound_eq] at hrun
    cases hrun
  · intro hbranch
    obtain ⟨action, haction⟩ :=
      hbranch (ε := Unit) (σ := Unit) fun _ => Act.panic (α := Unit) "branch"
    rw [h.branch_eq] at haction
    cases haction
  · rintro ⟨x, hx⟩
    have hrun := congrFun (hx (ε := Unit) (fun _ => Act.panic "handler") (pure ())) ()
    rw [h.dispatch_eq] at hrun
    cases hrun

/-- The ways to a payload lead there together. -/
theorem LawfulAt.ways_tfae (h : p.LawfulAt v) : (p.ways v).TFAE := by
  refine List.tfae_of_forall ((p.peek? v).isSome = true) _ fun way hway => ?_
  cases hx : p.peek? v with
  | some x => simpa using (h.handsOver hx).ways way hway
  | none => simpa using (h.refuses hx).ways way hway

/-! ## Values that are given back -/

/-- A use of a value with one of the patterns that `Q` admits, after which there is a value again:
the value was looked at, or its payload could not be taken. -/
inductive Kept (Q : (P : Type) → Pattern V T P → Prop) : V → V → Prop
  | observed {P ε σ : Type} {p : Pattern V T P} {f : P → Act ε σ Unit} {s : σ} {v v' : V}
      (hp : Q P p) (h : (p.observe v f s).ending = .done v') : Kept Q v v'
  | refused {P : Type} {p : Pattern V T P} {v v' : V} (hp : Q P p) (h : p.take v = .error v') :
      Kept Q v v'

omit [Tagged V T] [DecidableEq T] [Tag T] in
/-- Who looks at a value has the same value afterwards. -/
theorem eq_of_observe {ε σ : Type} {f : P → Act ε σ Unit} {s : σ} {v' : V}
    (h : (p.observe v f s).ending = .done v') : v' = v := by
  cases hx : p.peek? v with
  | some x =>
    rw [observe_of_some hx] at h
    obtain ⟨_, _, _, hpure⟩ := Act.done_bind h
    exact (Ending.done.inj hpure).symm
  | none =>
    rw [observe_of_none hx] at h
    exact (Ending.done.inj h).symm

omit [Tagged V T] [DecidableEq T] [Tag T] in
/-- After any number of uses that give a value back it is still the same. -/
theorem eq_of_kept {Q : (P : Type) → Pattern V T P → Prop}
    (hQ : ∀ {P : Type} {p : Pattern V T P}, Q P p → p.GivesBack) {v' : V}
    (h : Relation.ReflTransGen (Kept Q) v v') : v' = v := by
  induction h with
  | refl => rfl
  | tail _ hkept ih =>
    subst ih
    cases hkept with
    | observed _ h => exact eq_of_observe h
    | refused hp h => exact hQ hp _ _ h

omit [DecidableEq T] [Tag T] in
/-- A lawful pattern gives every value back that it cannot take. -/
theorem Lawful.givesBack (h : p.Lawful) : p.GivesBack := by
  intro v v' htake
  rw [(h v).take_eq] at htake
  cases hx : p.peek? v with
  | none =>
    rw [hx] at htake
    exact (Except.error.inj htake).symm
  | some x =>
    rw [hx] at htake
    cases htake

end Pattern

/-! ## Patterns of registries and schemas -/

namespace SchemaPattern

variable {C : Type} [DecidableEq C] [TypeCode C]

/-- A pattern over values of schemas that a pattern of some schema stands for. -/
inductive Image : (P : Type) → Pattern (SchemaValue C) SchemaTag P → Prop
  | of (p : SchemaPattern C) : Image _ p.toPattern

theorem givesBack (p : SchemaPattern C) : p.toPattern.GivesBack := by
  intro v v' htake
  change (if _ then _ else _) = _ at htake
  split at htake
  · split at htake
    · cases htake
    · exact (Except.error.inj htake).symm
  · exact (Except.error.inj htake).symm

end SchemaPattern

namespace World

variable {C : Type} [DecidableEq C] [TypeCode C] {w : World C}

omit [DecidableEq C] in
/-- A value and a pattern that schemas of the world make under one tag are made with one type. -/
theorem Consistent.made_type_eq (h : w.Consistent) (hbuilds : w.built.length < 2 ^ 64)
    {s s' : Traced (Schema C)} (hs : s ∈ w.schemas) (hs' : s' ∈ w.schemas) {name name' : String}
    {t : SchemaTag} {type type' : C} (hfind : s.item.find? name = some (t, type))
    (hfind' : s'.item.find? name' = some (t, type')) : type = type' := by
  have hdeclared := h.declares_of_find? hs hfind
  exact hdeclared.type_eq h hbuilds (h.declares_of_find? hs' hfind')

end World

/-- **Access.** The ways to the payload of a value lead there together, for values and patterns of a
registry and, before the identities are used up, of schemas. If they do, every way hands over the
payload that the value was made with, and if not, every way refuses it. A value that was kept is the
same value, however often it was looked at or could not be taken. -/
theorem Pattern.access_paths_agree :
    (∀ {F : Type} (den : F → Type) (r : Registry F) (t : r.Tag) (x : r.Payload den t),
      (∀ t' : r.Tag, ((t'.pattern den).ways (t.value x)).TFAE) ∧
      (t.pattern den).HandsOver (t.value x) x ∧
      (∀ t' : r.Tag, t ≠ t' → (t'.pattern den).Refuses (t.value x)) ∧
      ∀ v, Relation.ReflTransGen (Pattern.Kept (Registry.Marker den r)) (t.value x) v →
        v = t.value x) ∧
    ∀ {C : Type} [DecidableEq C] [TypeCode C] (steps : List (SchemaStep C)),
      (World.after steps).built.length < 2 ^ 64 →
      ∀ s ∈ (World.after steps).schemas, ∀ name type x v, s.item.value name type x = .ok v →
        (∀ s' ∈ (World.after steps).schemas, ∀ name' type' p,
          s'.item.pattern name' type' = .ok p →
          (p.toPattern.ways v).TFAE ∧
          (v.tag = p.tag → ∃ y, HEq y x ∧ p.toPattern.HandsOver v y) ∧
          (v.tag ≠ p.tag → p.toPattern.Refuses v)) ∧
        ∀ v', Relation.ReflTransGen (Pattern.Kept SchemaPattern.Image) v v' → v' = v := by
  refine ⟨fun den r t x => ⟨fun t' => (Registry.pattern_lawful t' _).ways_tfae, ?_, ?_, ?_⟩,
    fun steps hbuilds s hs name type x v hv => ⟨?_, ?_⟩⟩
  · exact (Registry.pattern_lawful t _).handsOver (Registry.payload?_value t x)
  · intro t' ht
    exact (Registry.pattern_lawful t' _).refuses (Registry.payload?_of_ne ht)
  · intro v hkept
    exact Pattern.eq_of_kept (fun hp => hp.lawful.givesBack) hkept
  · intro s' hs' name' type' p hp
    obtain ⟨tag, hfind, rfl⟩ := Schema.find?_of_check_bind hv
    obtain ⟨tag', hfind', rfl⟩ := Schema.find?_of_check_bind hp
    have hw := World.consistent_after steps
    have htype : tag = tag' → type = type' := by
      rintro rfl
      exact hw.made_type_eq hbuilds hs hs' hfind hfind'
    have hlawful := SchemaPattern.lawfulAt ⟨tag', type'⟩ ⟨tag, type, x⟩ htype
    refine ⟨hlawful.ways_tfae, ?_, fun htag => hlawful.refuses (if_neg htag)⟩
    rintro rfl
    obtain rfl := htype rfl
    exact ⟨x, HEq.rfl, hlawful.handsOver (by simp [SchemaPattern.toPattern])⟩
  · intro v' hkept
    refine Pattern.eq_of_kept (fun hp => ?_) hkept
    obtain ⟨p⟩ := hp
    exact p.givesBack

/-! ## Shapes -/

namespace Shapes

/-- The first schema of shapes. -/
def shapes : Traced (Schema PayloadType) where
  origin := 0
  item := ⟨0, "Shape", [("Circle", .int .i64), ("Dot", .unit)]⟩

theorem shapes_mem : shapes ∈ (World.after steps).schemas := List.mem_cons_self

theorem access_seven :
    (World.after steps).built.length = 2 ∧
      shapes.item.value "Circle" (.int .i64) seven.item.payload = .ok seven.item ∧
      shapes.item.pattern "Circle" (.int .i64) = .ok radius.item ∧
      labels.item.pattern "Circle" .ownedText = .ok label.item ∧
      (radius.item.toPattern.ways seven.item).TFAE ∧
      radius.item.toPattern.HandsOver seven.item seven.item.payload ∧
      label.item.toPattern.Refuses seven.item := by
  obtain ⟨-, hschemas⟩ := Pattern.access_paths_agree
  obtain ⟨hpatterns, -⟩ :=
    hschemas steps built_lt shapes shapes_mem "Circle" (.int .i64) seven.item.payload seven.item rfl
  obtain ⟨htfae, hhands, -⟩ := hpatterns shapes shapes_mem "Circle" (.int .i64) radius.item rfl
  obtain ⟨-, -, hrefuses⟩ := hpatterns labels labels_mem "Circle" .ownedText label.item rfl
  obtain ⟨y, hy, hradius⟩ := hhands rfl
  obtain rfl := eq_of_heq hy
  exact ⟨rfl, rfl, rfl, rfl, htfae, hradius, hrefuses (by decide)⟩

end Shapes

end TagDispatch
