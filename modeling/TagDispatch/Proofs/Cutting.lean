import TagDispatch.Proofs.OnDemand

/-!
# Conditionals cut into conditionals

A primary branch is a first further branch, and the further branches may be cut anywhere: those
behind the cut become a conditional of its own in the else of the first. Neither depends on what the
branches do, for they are tried in the same order, and the ones behind a cut are reached exactly if
none ahead of it fires: `Branch.first_append`.

The same holds if the branches are built ahead. Then all of them are built before the first
conditional is entered, those behind the cut too: `Branch.buildAll_append`.
-/

namespace TagDispatch

variable {ε σ R O : Type}

/-! ## Branches in two parts -/

namespace Branch

/-- Of two parts the second is tried if no branch of the first fires. -/
theorem first_append (xs ys : List (Act ε σ (Branch ε σ R))) :
    first (xs ++ ys) = first xs >>= fun
      | some r => pure (some r)
      | none => first ys := by
  induction xs with
  | nil =>
    show first ys = pure none >>= _
    rw [pure_bind]
  | cons build rest ih =>
    rw [List.cons_append, first, first, bind_assoc]
    refine congrArg (build >>= ·) (funext fun branch => ?_)
    rw [bind_assoc]
    refine congrArg (branch.attempt >>= ·) (funext fun fired => ?_)
    cases fired with
    | some r =>
      show pure (some r) = pure (some r) >>= _
      rw [pure_bind]
    | none => exact ih

/-- Of two parts the first is built first. -/
theorem buildAll_append (xs ys : List (Act ε σ (Branch ε σ R))) :
    buildAll (xs ++ ys) = (do
      let ahead ← buildAll xs
      let behind ← buildAll ys
      pure (ahead ++ behind)) := by
  induction xs with
  | nil => simp [buildAll]
  | cons build rest ih =>
    rw [List.cons_append, buildAll, buildAll, ih]
    simp only [bind_assoc, pure_bind, List.cons_append]

end Branch

/-! ## The rest of a conditional in two parts -/

namespace Conditional

/-- A conditional whose condition does not hold is its further branches. -/
theorem plain_false (u : Act ε σ R) (builds : List (Act ε σ (Branch ε σ R)))
    (completion : Completion ε σ R O) : plain false u builds completion = rest builds completion :=
  rfl

/-- The second of two parts may be left to the else of the first. -/
theorem rest_append (xs ys : List (Act ε σ (Branch ε σ R))) (f : Act ε σ R) :
    rest (xs ++ ys) (.orElse f) = rest xs (.orElse (rest ys (.orElse f))) := by
  rw [rest, Branch.first_append, bind_assoc, rest]
  refine congrArg (Branch.first xs >>= ·) (funext fun fired => ?_)
  cases fired with
  | some r => exact pure_bind (some r) _
  | none => rfl

end Conditional

namespace Clause

/-- Further branches behind a cut may be left to the else. -/
theorem conditional_append (c : Clause ε σ R) (xs ys : List (Act ε σ (Branch ε σ R)))
    (f : Act ε σ R) :
    c.conditional (xs ++ ys) (.orElse f) =
      c.conditional xs (.orElse (Conditional.rest ys (.orElse f))) := by
  rw [conditional_eq_rest, conditional_eq_rest, ← List.cons_append, Conditional.rest_append]

/-- **Cutting.** A conditional does the same as the one whose condition does not hold and whose
first further branch is the primary one, and its further branches may be cut anywhere if those
behind the cut become a conditional in the else of the first. Both hold for branches that are built
on demand and for branches that are built ahead, whatever the code does and the patterns find. A
further branch asks for tags that a primary one does not ask for; that makes no difference because
patterns have no effects. -/
theorem conditionals_cut_anywhere (c : Clause ε σ R) (u : Act ε σ R) :
    (∀ builds (completion : Completion ε σ R O),
      c.conditional builds completion =
        Conditional.plain false u (pure c.branch :: builds) completion) ∧
    (∀ builds (completion : Completion ε σ R O),
      c.eager builds completion =
        (Clause.plain false u).eager (pure c.branch :: builds) completion) ∧
    (∀ xs ys f,
      c.conditional (xs ++ ys) (.orElse f) =
        c.conditional xs (.orElse (Conditional.plain false u ys (.orElse f)))) ∧
    ∀ xs ys f,
      c.eager (xs ++ ys) (.orElse f) = (do
        let ahead ← Branch.buildAll xs
        let behind ← Branch.buildAll ys
        c.conditional (Branch.built ahead)
          (.orElse (Conditional.plain false u (Branch.built behind) (.orElse f)))) := by
  refine ⟨fun builds completion => ?_, fun builds completion => ?_, fun xs ys f => ?_,
    fun xs ys f => ?_⟩
  · rw [Conditional.plain_false, conditional_eq_rest]
  · have hbuilt : ∀ branches, Branch.built (c.branch :: branches) =
        pure c.branch :: Branch.built branches := fun branches => rfl
    simp only [eager, Branch.buildAll, bind_assoc, pure_bind, hbuilt]
    refine congrArg (Branch.buildAll builds >>= ·) (funext fun branches => ?_)
    exact conditional_eq_rest c _ _
  · rw [Conditional.plain_false, conditional_append]
  · have hcut : ∀ ahead behind, c.conditional (Branch.built (ahead ++ behind)) (.orElse f) =
        c.conditional (Branch.built ahead)
          (.orElse (Conditional.plain false u (Branch.built behind) (.orElse f))) := by
      intro ahead behind
      rw [Branch.built, List.map_append]
      exact conditional_append c _ _ f
    simp only [eager, Branch.buildAll_append, bind_assoc, pure_bind, hcut]

end Clause

end TagDispatch
