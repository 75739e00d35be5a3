import TagDispatch.Proofs.Chains
import TagDispatch.Proofs.Turns

/-!
# Clauses of conditionals

A conditional is written as a primary clause, further clauses and a completion. The clauses take
turns: `Clause.turn` asks the guard of a clause, if its pattern finds a payload, and gives the body
if the clause fires. `Clause.conditional_eq_search` reads every conditional as the search among the
turns of its clauses, whatever builds the further ones; from there `Clause.first_firing_runs` says
which code a conditional calls, and in which order.
-/

namespace TagDispatch

variable {ε σ R O : Type}

open Act

/-- A clause of a conditional: what has to hold for it to fire, and its body. The clauses of one
conditional may be about different values. -/
inductive Clause (ε σ R : Type) : Type 1 where
  /-- Fires if a condition holds. -/
  | plain (holds : Bool) (body : Act ε σ R)
  /-- Fires if a pattern finds the payload of a value. -/
  | bound {V T P : Type} [Tagged V T] [Tag T] (v : V) (p : Pattern V T P) (body : P → Act ε σ R)
  /-- Fires if a pattern finds the payload of a value and a guard accepts it. -/
  | guarded {V T P : Type} [Tagged V T] [Tag T] (v : V) (p : Pattern V T P)
      (guard : P → Act ε σ Bool) (body : P → Act ε σ R)

/-! ## Turns of branches -/

namespace Branch

/-- Asks the guard, if there is a payload to ask about, and gives the body if the branch fires. -/
def offer : Branch ε σ R → Act ε σ (Option (Act ε σ R))
  | plain holds body => pure (if holds then some body else none)
  | bound found body => pure (if found then some body else none)
  | guarded found guard body => if found then provided guard body else pure none

/-- At its turn an entry is built and then tried. -/
def turn (build : Act ε σ (Branch ε σ R)) : Act ε σ (Option (Act ε σ R)) := do
  let branch ← build
  branch.offer

theorem attempt_eq_offer (branch : Branch ε σ R) : branch.attempt = branch.offer >>= runGiven := by
  cases branch with
  | plain holds body => cases holds <;> simp [attempt, offer, runGiven]
  | bound found body => cases found <;> simp [attempt, offer, runGiven]
  | guarded found guard body =>
    cases found with
    | false => simp [attempt, offer, runGiven]
    | true =>
      simp only [attempt, offer, provided, if_true, bind_assoc]
      refine congrArg (guard >>= ·) (funext fun accepted => ?_)
      cases accepted <;> simp [runGiven]

/-- To try branches up to the first that fires is to search among their turns and to run what is
given. -/
theorem first_eq_search (builds : List (Act ε σ (Branch ε σ R))) :
    first builds = search (builds.map turn) >>= runGiven := by
  induction builds with
  | nil => rfl
  | cons build rest ih =>
    rw [first, List.map_cons, search, turn, bind_assoc, bind_assoc]
    refine congrArg (build >>= ·) (funext fun branch => ?_)
    rw [attempt_eq_offer, bind_assoc]
    refine congrArg (branch.offer >>= ·) (funext fun given => ?_)
    cases given with
    | some body => simp [runGiven]
    | none => simpa [runGiven] using ih

end Branch

/-! ## Conditionals as searches -/

/-- Completes a conditional with the code that a search gives, if it gives any. -/
def Completion.settle (completion : Completion ε σ R O) : Option (Act ε σ R) → Act ε σ O
  | some body => do
    let r ← body
    completion.complete (some r)
  | none => completion.complete none

theorem Completion.runGiven_bind (completion : Completion ε σ R O) (given : Option (Act ε σ R)) :
    runGiven given >>= completion.complete = completion.settle given := by
  cases given <;> simp [runGiven, settle]

theorem Conditional.rest_eq_search (builds : List (Act ε σ (Branch ε σ R)))
    (completion : Completion ε σ R O) :
    rest builds completion = search (builds.map Branch.turn) >>= completion.settle := by
  rw [rest, Branch.first_eq_search, bind_assoc]
  exact congrArg _ (funext completion.runGiven_bind)

namespace Clause

/-- The clause as a further branch of a conditional. -/
def branch : Clause ε σ R → Branch ε σ R
  | plain holds body => .plain holds body
  | bound v p body => .ofPattern v p body
  | guarded v p guard body => .ofGuard v p guard body

/-- The conditional with the clause as its primary branch. -/
def conditional (primary : Clause ε σ R) (builds : List (Act ε σ (Branch ε σ R)))
    (completion : Completion ε σ R O) : Act ε σ O :=
  match primary with
  | plain holds body => Conditional.plain holds body builds completion
  | bound v p body => Conditional.bound v p body builds completion
  | guarded v p guard body => Conditional.guarded v p guard body builds completion

/-- The conditional whose further branches are built ahead from clauses. -/
def conditionalOver (primary : Clause ε σ R) (others : List (Clause ε σ R))
    (completion : Completion ε σ R O) : Act ε σ O :=
  primary.conditional (Branch.built (others.map branch)) completion

/-- The guard that the clause asks at its turn, about the payload that its pattern finds. -/
def guard? : Clause ε σ R → Option (Act ε σ Bool)
  | guarded v p guard _ => (p.peek? v).map guard
  | _ => none

/-- At its turn a clause gives its body if its condition holds, if its pattern finds a payload, or
if its pattern finds a payload that its guard accepts. -/
def turn : Clause ε σ R → Act ε σ (Option (Act ε σ R))
  | plain holds body => pure (if holds then some body else none)
  | bound v p body => pure ((p.peek? v).map body)
  | guarded v p guard body =>
    match p.peek? v with
    | some x => provided (guard x) (body x)
    | none => pure none

theorem branch_offer (c : Clause ε σ R) : c.branch.offer = c.turn := by
  cases c with
  | plain holds body => rfl
  | bound v p body =>
    rw [branch, Branch.ofPattern, turn, onPayload]
    cases p.peek? v <;> rfl
  | guarded v p guard body =>
    rw [branch, Branch.ofGuard, turn, onPayload, onPayload]
    cases p.peek? v <;> rfl

/-- A primary clause is a first further clause. -/
theorem conditional_eq_rest (c : Clause ε σ R) (builds : List (Act ε σ (Branch ε σ R)))
    (completion : Completion ε σ R O) :
    c.conditional builds completion = Conditional.rest (pure c.branch :: builds) completion := by
  cases c with
  | plain holds body =>
    rw [conditional, branch, Conditional.rest, Branch.first_pure_cons, Conditional.plain]
    cases holds <;> simp [Branch.attempt, Conditional.rest]
  | bound v p body => exact Conditional.bound_eq_rest body builds completion
  | guarded v p guard body => exact Conditional.guarded_eq_rest guard body builds completion

/-- A conditional searches among the turns of its clauses and completes with what is given. -/
theorem conditional_eq_search (c : Clause ε σ R) (builds : List (Act ε σ (Branch ε σ R)))
    (completion : Completion ε σ R O) :
    c.conditional builds completion =
      search (c.turn :: builds.map Branch.turn) >>= completion.settle := by
  rw [conditional_eq_rest, Conditional.rest_eq_search, List.map_cons, Branch.turn, pure_bind,
    branch_offer]

theorem conditionalOver_eq_search (primary : Clause ε σ R) (others : List (Clause ε σ R))
    (completion : Completion ε σ R O) :
    primary.conditionalOver others completion =
      search ((primary :: others).map turn) >>= completion.settle := by
  have hturns : (Branch.built (others.map branch)).map Branch.turn = others.map turn := by
    rw [Branch.built, List.map_map, List.map_map]
    refine List.map_congr_left fun c _ => ?_
    show pure c.branch >>= Branch.offer = c.turn
    rw [pure_bind, branch_offer]
  rw [conditionalOver, conditional_eq_search, hturns, List.map_cons]

/-- The code of a clause has the property. -/
def CodeIn (Q : (α : Type) → Act ε σ α → Prop) : Clause ε σ R → Prop
  | plain _ body => Q R body
  | bound _ _ body => ∀ x, Q R (body x)
  | guarded _ _ guard body => (∀ x, Q Bool (guard x)) ∧ ∀ x, Q R (body x)

section Code

variable {Q : (α : Type) → Act ε σ α → Prop} {c : Clause ε σ R}

/-- The turn of a clause has every compositional property that its code has. -/
theorem turn_of_code (hQ : Compositional Q) (h : c.CodeIn Q) : Q _ c.turn := by
  cases c with
  | plain holds body => exact hQ.ofResult _
  | bound v p body => exact hQ.ofResult _
  | guarded v p guard body =>
    rw [turn]
    cases p.peek? v with
    | none => exact hQ.ofResult none
    | some x => exact provided_of_code hQ (h.1 x) (body x)

/-- At its turn a clause gives nothing but its code. -/
theorem turn_givesIn (h : c.CodeIn Q) : GivesIn Q c.turn := by
  cases c with
  | plain holds body =>
    refine pure_givesIn fun body' hbody' => ?_
    cases holds <;> cases hbody'
    exact h
  | bound v p body =>
    refine pure_givesIn fun body' hbody' => ?_
    obtain ⟨x, -, rfl⟩ := Option.map_eq_some_iff.mp hbody'
    exact h x
  | guarded v p guard body =>
    rw [turn]
    cases p.peek? v with
    | none => exact pure_givesIn (by simp)
    | some x => exact provided_givesIn (h.2 x)

end Code

/-! ## The code that is called -/

/-- Of turns that had no other effect than their guards only the guards are left. -/
theorem inTurn_map_turn (cs : List (Clause ε σ R)) :
    inTurn (cs.map turn) = inTurn (cs.filterMap guard?) := by
  induction cs with
  | nil => rfl
  | cons c rest ih =>
    rw [List.map_cons, inTurn, ih]
    cases c with
    | plain holds body => rfl
    | bound v p body => rfl
    | guarded v p guard body =>
      cases hx : p.peek? v with
      | none => simp [turn, guard?, hx]
      | some x => simp [turn, guard?, hx, provided_bind_const, inTurn]

/-- **Conditionals.** The clauses of a conditional take turns from the primary one on, and come to
something. The guards that are asked are those of the clauses that had their turn and found a
payload, in order. If a clause fires, then its body runs and completes the conditional, and no else
runs; if none does, a conditional without an else has no result and one with an else runs it; and if
a guard has no answer, nothing follows. A conditional with an else is the one without, with the else
run where that has no result. -/
theorem first_firing_runs (primary : Clause ε σ R) (others : List (Clause ε σ R)) (s : σ) :
    (∃ had outcome, TakeTurns turn (primary :: others) s had outcome) ∧
    (∀ had outcome, TakeTurns turn (primary :: others) s had outcome →
      had <+: primary :: others ∧
      (∀ body, outcome = .given body →
        (∀ {O : Type} (completion : Completion ε σ R O),
          primary.conditionalOver others completion s = (do
            inTurn (had.filterMap guard?)
            let r ← body
            completion.complete (some r)) s) ∧
        primary.conditionalOver others .optional s = (do
          inTurn (had.filterMap guard?)
          some <$> body) s ∧
        ∀ f, primary.conditionalOver others (.orElse f) s = (do
          inTurn (had.filterMap guard?)
          body) s) ∧
      (outcome = .nothing → had = primary :: others ∧
        (∀ {O : Type} (completion : Completion ε σ R O),
          primary.conditionalOver others completion s = (do
            inTurn (had.filterMap guard?)
            completion.complete none) s) ∧
        primary.conditionalOver others .optional s = (do
          inTurn (had.filterMap guard?)
          pure none) s ∧
        ∀ f, primary.conditionalOver others (.orElse f) s = (do
          inTurn (had.filterMap guard?)
          f) s) ∧
      (outcome = .cutShort → ∀ {O : Type} (completion : Completion ε σ R O) next,
        primary.conditionalOver others completion s = (do
          inTurn (had.filterMap guard?)
          next) s)) ∧
    ∀ f, primary.conditionalOver others (.orElse f) = (do
      match ← primary.conditionalOver others .optional with
      | some r => pure r
      | none => f) := by
  refine ⟨exists_takeTurns turn _ s, fun had outcome h => ⟨h.isPrefix_had, ?_, ?_, ?_⟩, fun f => ?_⟩
  · rintro body rfl
    have hgiven : ∀ {O : Type} (completion : Completion ε σ R O),
        primary.conditionalOver others completion s = (do
          inTurn (had.filterMap guard?)
          let r ← body
          completion.complete (some r)) s := by
      intro O completion
      rw [conditionalOver_eq_search, h.search_bind (.given body), inTurn_map_turn]
      rfl
    refine ⟨hgiven, ?_, fun f => ?_⟩
    · rw [hgiven .optional, ← bind_pure_comp]
      rfl
    · have hbody : (body >>= fun r => (Completion.orElse f).complete (some r)) = body :=
        bind_pure body
      rw [hgiven (.orElse f), hbody]
  · intro hnone
    have hnothing : ∀ {O : Type} (completion : Completion ε σ R O),
        primary.conditionalOver others completion s = (do
          inTurn (had.filterMap guard?)
          completion.complete none) s := by
      intro O completion
      subst hnone
      rw [conditionalOver_eq_search, h.search_bind .nothing, inTurn_map_turn]
      rfl
    exact ⟨h.had_eq hnone, hnothing, hnothing .optional, fun f => hnothing (.orElse f)⟩
  · rintro rfl O completion next
    rw [conditionalOver_eq_search, h.search_bind (.cutShort next), inTurn_map_turn]
  · rw [conditionalOver_eq_search, conditionalOver_eq_search, bind_assoc]
    refine congrArg (search _ >>= ·) (funext fun given => ?_)
    cases given <;> simp [Completion.settle, Completion.optional, Completion.orElse]

end Clause

/-! ## Circles -/

namespace Circles

open Registry Script

/-- A clause for dots with a guard, on a circle. -/
def dotClause : Clause String Nat Unit :=
  .guarded seven (dot.pattern PayloadType.Val) (fun _ => Act.panic "guard") fun _ =>
    Act.panic "dot"

/-- A clause on a circle whose guard counts how often it is asked, and turns the first payload
down. -/
def countedClause (text : String) : Clause String Nat Unit :=
  .guarded seven (circle.pattern PayloadType.Val) (countedCase text).guard
    (countedCase text).handler

/-- Clauses that do not fire after the one for dots. -/
def missed : List (Clause String Nat Unit) :=
  [countedClause "first", .bound seven (dot.pattern PayloadType.Val) fun _ => Act.panic "dot",
    .plain false (Act.panic "plain")]

/-- Clauses of which the last but one fires. -/
def others : List (Clause String Nat Unit) :=
  missed ++ [countedClause "second", .plain true (Act.panic "plain")]

theorem takeTurns_others :
    TakeTurns Clause.turn (dotClause :: others) 0 (dotClause :: missed ++ [countedClause "second"])
      (.given (Act.write "second")) :=
  .pass rfl (.pass rfl (.pass rfl (.pass rfl (.given rfl _))))

theorem takeTurns_missed :
    TakeTurns Clause.turn (dotClause :: missed) 0 (dotClause :: missed) .nothing :=
  .pass rfl (.pass rfl (.pass rfl (.pass rfl (.nothing _))))

end Circles

theorem first_firing_runs_seven :
    Circles.dotClause.conditionalOver Circles.others .optional 0 =
        ⟨.done (some ()), 2, [.wrote "asked", .wrote "asked", .wrote "second"]⟩ ∧
      Circles.dotClause.conditionalOver Circles.missed (.orElse (Act.write "else")) 0 =
        ⟨.done (), 1, [.wrote "asked", .wrote "else"]⟩ := by
  obtain ⟨-, hothers, -⟩ := Clause.first_firing_runs Circles.dotClause Circles.others 0
  obtain ⟨-, hmissed, -⟩ := Clause.first_firing_runs Circles.dotClause Circles.missed 0
  obtain ⟨-, hgiven, -⟩ := hothers _ _ Circles.takeTurns_others
  obtain ⟨-, -, hnothing, -⟩ := hmissed _ _ Circles.takeTurns_missed
  obtain ⟨-, hoptional, -⟩ := hgiven _ rfl
  obtain ⟨-, -, -, helse⟩ := hnothing rfl
  exact ⟨hoptional, helse (Act.write "else")⟩

end TagDispatch
