import TagDispatch.Proofs.Clauses
import TagDispatch.Proofs.Protocol

/-!
# Forcing branches

A branch that looks for a payload holds code that is a defect to run without one, and a flag that
says whether there is one. A conditional runs the code of a branch only if the flag is set, so it
meets none of these defects, however little the tag of a pattern says about its payloads:
`Clause.conditional_avoids`. Whoever takes a branch apart and runs its code by hand meets the defect
exactly if the flag is not set: `onPayload_forced`.
-/

namespace TagDispatch

variable {ε σ V T P α β R O : Type}

open Act

/-! ## Conditionals -/

/-- A sequence avoids a defect if its first part does, and what follows a result of it. -/
theorem Act.Avoids.bind {e : Error} {x : Act ε σ α} (hx : x.Avoids e) {f : α → Act ε σ β}
    (hf : ∀ s a, (x s).ending = .done a → (f a).Avoids e) : (x >>= f).Avoids e := by
  intro s hdefect
  rcases hrun : x s with ⟨a | text | e', s', log⟩
  · rw [bind_done hrun] at hdefect
    exact hf s a (by rw [hrun]) s' hdefect
  · rw [bind_panicked hrun] at hdefect
    cases hdefect
  · rw [bind_defective hrun] at hdefect
    cases hdefect
    exact hx s (by rw [hrun])

namespace Clause

/-- The construction gives further branches made of clauses, and both the construction and the code
of the clauses have the property. -/
structure Builds (Q : (α : Type) → Act ε σ α → Prop) (build : Act ε σ (Branch ε σ R)) : Prop where
  code : Q _ build
  gives : ∀ s branch, (build s).ending = .done branch →
    ∃ c : Clause ε σ R, c.CodeIn Q ∧ branch = c.branch

variable {e : Error} {build : Act ε σ (Branch ε σ R)}

/-- Branches that are built ahead from clauses are made of clauses. -/
theorem builds_built {Q : (α : Type) → Act ε σ α → Prop} (hQ : Compositional Q)
    {cs : List (Clause ε σ R)} (h : ∀ c ∈ cs, c.CodeIn Q) :
    ∀ build ∈ Branch.built (cs.map branch), Builds Q build := by
  refine List.forall_mem_map.mpr (List.forall_mem_map.mpr fun c hc => ⟨hQ.ofResult _, ?_⟩)
  intro s branch hbranch
  exact ⟨c, h c hc, (Ending.done.inj hbranch).symm⟩

theorem Builds.turn_avoids (h : Builds (fun _ x => x.Avoids e) build) :
    (Branch.turn build).Avoids e := by
  refine Avoids.bind h.code fun s branch hbranch => ?_
  obtain ⟨c, hc, rfl⟩ := h.gives s branch hbranch
  rw [branch_offer]
  exact turn_of_code (avoids_compositional e) hc

theorem Builds.turn_givesIn {Q : (α : Type) → Act ε σ α → Prop} (h : Builds Q build) :
    GivesIn Q (Branch.turn build) := by
  intro s body hbody
  obtain ⟨branch, s', hbranch, hgiven⟩ := done_bind hbody
  obtain ⟨c, hc, rfl⟩ := h.gives s branch hbranch
  rw [branch_offer] at hgiven
  exact Clause.turn_givesIn hc s' body hgiven

/-- A conditional ends in no defect that its code avoids. -/
theorem conditional_avoids {primary : Clause ε σ R} {builds : List (Act ε σ (Branch ε σ R))}
    {completion : Completion ε σ R O} (hprimary : primary.CodeIn fun _ x => x.Avoids e)
    (hbuilds : ∀ build ∈ builds, Builds (fun _ x => x.Avoids e) build)
    (hcompletion : ∀ fired, (completion.complete fired).Avoids e) :
    (primary.conditional builds completion).Avoids e := by
  have hcode := turn_of_code (avoids_compositional e) hprimary
  have hturns : ∀ turn ∈ primary.turn :: builds.map Branch.turn, turn.Avoids e :=
    List.forall_mem_cons.mpr ⟨hcode,
      List.forall_mem_map.mpr fun build hbuild => (hbuilds build hbuild).turn_avoids⟩
  have hgiven : ∀ turn ∈ primary.turn :: builds.map Branch.turn,
      turn.GivesIn fun _ x => x.Avoids e :=
    List.forall_mem_cons.mpr ⟨turn_givesIn hprimary,
      List.forall_mem_map.mpr fun build hbuild => (hbuilds build hbuild).turn_givesIn⟩
  rw [conditional_eq_search]
  refine (search_of_code (avoids_compositional e) hturns).bind fun s given hending => ?_
  cases given with
  | some body =>
    exact (search_givesIn hgiven s body hending).bind fun _ r _ => hcompletion (some r)
  | none => exact hcompletion none

end Clause

/-! ## Code that is run by hand -/

section Forcing

variable [Tagged V T] [Tag T]

/-- What comes of running, by hand, code for the payload that a pattern finds in a value, by the
flag of the branch that holds the code. -/
structure Forced (v : V) (p : Pattern V T P) (f : P → Act ε σ α) (matched : Bool)
    (x : Act ε σ α) : Prop where
  /-- With the flag set the code runs on the payload. -/
  of_matched : matched = true → ∃ payload, p.peek? v = some payload ∧ x = f payload
  /-- Without it nothing is called, and the run is the defect of a wrong branch. -/
  of_missed : matched = false → ∀ s, x s =
    ⟨.defective (.branchKeyMismatch (Tag.name p.tag) (Tag.name (tag v))), s,
      [.notice (.defect (Error.branchKeyMismatch (Tag.name p.tag) (Tag.name (tag v))).message)]⟩
  /-- The defect comes of a missing flag only, unless the code ends in it by itself. -/
  defective_iff : (∀ payload, (f payload).Avoids
      (.branchKeyMismatch (Tag.name p.tag) (Tag.name (tag v)))) → ∀ s,
    (x s).ending = .defective (.branchKeyMismatch (Tag.name p.tag) (Tag.name (tag v))) ↔
      matched = false

theorem onPayload_forced (v : V) (p : Pattern V T P) (f : P → Act ε σ α) :
    Forced v p f (p.peek? v).isSome (onPayload v p f) := by
  unfold onPayload
  cases hx : p.peek? v with
  | none =>
    exact
      { of_matched := fun h => nomatch h
        of_missed := fun _ _ => rfl
        defective_iff := fun _ _ => ⟨fun _ => rfl, fun _ => rfl⟩ }
  | some payload =>
    exact
      { of_matched := fun _ => ⟨payload, hx, rfl⟩
        of_missed := fun h => nomatch h
        defective_iff := fun havoids s =>
          ⟨fun h => absurd h (havoids payload s), fun h => nomatch h⟩ }

end Forcing

/-- **Forced branches.** A conditional whose further branches are made of clauses ends in no defect,
whatever the patterns of the clauses, unless code of the caller ends in it. A branch that looks for
a payload shows a flag; if the flag is not set, to run the body or the guard of the branch by hand
is the defect of a wrong branch, which names the tag of the pattern and that of the value, and calls
nothing; and if it is set, then the body or the guard runs on the payload that the pattern finds. -/
theorem Clause.defective_iff_forced :
    (∀ (e : Error) {R O : Type} (primary : Clause ε σ R) (builds : List (Act ε σ (Branch ε σ R)))
      (completion : Completion ε σ R O), (primary.CodeIn fun _ x => x.Avoids e) →
      (∀ build ∈ builds, Builds (fun _ x => x.Avoids e) build) →
      (∀ fired, (completion.complete fired).Avoids e) →
      (primary.conditional builds completion).Avoids e) ∧
    ∀ {V T P R : Type} [Tagged V T] [Tag T] (v : V) (p : Pattern V T P)
      (guard : P → Act ε σ Bool) (body : P → Act ε σ R),
      (dump (Branch.ofPattern v p body) =
          .record "Let" [("matched", .bool (p.peek? v).isSome)] false ∧
        Forced v p body (p.peek? v).isSome (Branch.ofPattern v p body).body) ∧
      dump (Branch.ofGuard v p guard body) =
          .record "GuardedLet" [("matched", .bool (p.peek? v).isSome)] false ∧
        Forced v p body (p.peek? v).isSome (Branch.ofGuard v p guard body).body ∧
        ∃ forced, (Branch.ofGuard v p guard body).guard? = some forced ∧
          Forced v p guard (p.peek? v).isSome forced := by
  refine ⟨fun e R O primary builds completion hprimary hbuilds hcompletion =>
    conditional_avoids hprimary hbuilds hcompletion, fun v p guard body => ⟨?_, ?_⟩⟩
  · exact ⟨rfl, onPayload_forced v p body⟩
  · exact ⟨rfl, onPayload_forced v p body, _, rfl, onPayload_forced v p guard⟩

/-! ## Circles -/

namespace Circles

open Registry Script

/-- A pattern with the tag of a circle that finds no payload. -/
def blind : Pattern (Sample.shape.Value PayloadType.Val) Sample.shape.Tag Unit where
  tag := circle
  peek? _ := none
  take v := .error v

/-- A pattern with the tag of a dot that finds the payload of every shape. -/
def crossed : Pattern (Sample.shape.Value PayloadType.Val) Sample.shape.Tag String where
  tag := dot
  peek? v := some (Tag.name v.tag)
  take v := .ok (Tag.name v.tag)

def blindClause : Clause String Nat Unit := .bound seven blind fun _ => Act.panic "blind"

def crossedClause : Clause String Nat Unit :=
  .guarded seven crossed (fun _ => Act.panic "guard") Act.write

theorem crossedClause_code (e : Error) :
    crossedClause.CodeIn fun _ x => x.Avoids e :=
  ⟨fun _ => (Act.foreign_panic "guard").avoids e, fun text => (Act.foreign_write text).avoids e⟩

end Circles

theorem defective_iff_forced_seven :
    (Circles.blindClause.conditionalOver [Circles.crossedClause]
        (.orElse (Act.write "else"))).Avoids (.branchKeyMismatch "Circle" "Circle") ∧
      ((Branch.ofPattern Circles.seven Circles.blind fun _ =>
          (Act.panic "blind" : Act String Nat Unit)).body 0).ending =
        .defective (.branchKeyMismatch "Circle" "Circle") ∧
      (Branch.ofGuard Circles.seven Circles.crossed
          (fun _ => (Act.panic "guard" : Act String Nat Bool)) Act.write).body =
        Act.write "Circle" := by
  obtain ⟨hconditional, hbranches⟩ := Clause.defective_iff_forced (ε := String) (σ := Nat)
  obtain ⟨⟨-, hdefect⟩, -⟩ := hbranches Circles.seven Circles.blind
    (fun _ => Act.panic "guard") fun _ => (Act.panic "blind" : Act String Nat Unit)
  obtain ⟨-, -, hruns, -⟩ := hbranches Circles.seven Circles.crossed
    (fun _ => Act.panic "guard") Act.write
  refine ⟨hconditional _ _ _ _ ?_ ?_ ?_, ?_, ?_⟩
  · exact fun _ => (Act.foreign_panic "blind").avoids _
  · exact Clause.builds_built (avoids_compositional _)
      (List.forall_mem_singleton.mpr (Circles.crossedClause_code _))
  · intro fired
    cases fired with
    | some r => exact (avoids_compositional _).ofResult r
    | none => exact (Act.foreign_write "else").avoids _
  · exact (hdefect.defective_iff (fun _ => (Act.foreign_panic "blind").avoids _) 0).mpr rfl
  · obtain ⟨payload, hpayload, hbody⟩ := hruns.of_matched rfl
    cases hpayload
    exact hbody

end TagDispatch
