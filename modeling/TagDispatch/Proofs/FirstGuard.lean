import TagDispatch.Proofs.Chains
import TagDispatch.Proofs.Turns

/-!
# The first guard that accepts

A chain takes the payload, and then its cases take turns: each asks its guard about the payload and
gives its handler if the guard accepts. `runCases_eq_search` reads a closed chain as the search
among them that goes on with the default where nothing is given, and `runCases?_eq_search` an open
one as the same search without a default. `Cases.first_accepting_runs` says which code a chain
calls, and in which order.
-/

namespace TagDispatch

variable {ε σ V T P R : Type}

open Act

/-! ## Chains as searches -/

/-- At its turn a case asks its guard about the payload, and gives its handler on the payload if the
guard accepts. -/
def Case.turn (x : P) (c : Case ε σ P R) : Act ε σ (Option (Act ε σ R)) :=
  provided (c.guard x) (c.handler x)

/-- After the guard of a case either its handler follows or the search among the other cases. -/
theorem Case.search_cons_bind (x : P) (c : Case ε σ P R) (rest : List (Case ε σ P R))
    {β : Type} (f : Option (Act ε σ R) → Act ε σ β) :
    search ((c :: rest).map (turn x)) >>= f = (do
      if ← c.guard x then f (some (c.handler x))
      else search (rest.map (turn x)) >>= f) := by
  rw [List.map_cons, Act.search_cons_bind, turn, provided, bind_assoc]
  refine congrArg (c.guard x >>= ·) (funext fun accepted => ?_)
  cases accepted <;> simp

theorem runCases_eq_search (default : P → Act ε σ R) (x : P) (cases : List (Case ε σ P R)) :
    runCases default x cases =
      search (cases.map (Case.turn x)) >>= fun given => given.getD (default x) := by
  induction cases with
  | nil => rfl
  | cons c rest ih =>
    rw [Case.search_cons_bind, runCases, ih]
    rfl

theorem runCases?_eq_search (x : P) (cases : List (Case ε σ P R)) :
    runCases? x cases = search (cases.map (Case.turn x)) >>= runGiven := by
  induction cases with
  | nil => rfl
  | cons c rest ih =>
    rw [Case.search_cons_bind, runCases?, ih]
    simp only [runGiven, bind_pure_comp]

/-- The guards of some cases, to be asked about one payload. -/
def Case.guardsAt (x : P) (cases : List (Case ε σ P R)) : List (Act ε σ Bool) :=
  cases.map fun c => c.guard x

/-- Of the turns of cases only the guards are left if nothing is done with what they give. -/
theorem Case.inTurn_map_turn (x : P) (cases : List (Case ε σ P R)) :
    inTurn (cases.map (turn x)) = inTurn (guardsAt x cases) := by
  induction cases with
  | nil => rfl
  | cons c rest ih =>
    rw [List.map_cons, inTurn, turn, provided_bind_const, ih]
    rfl

/-! ## The code that is called -/

namespace Cases

variable [Tagged V T] [Tag T]

/-- A chain that cannot take its payload is the defect of a wrong branch, and calls nothing. -/
theorem demand_bind_of_error {p : Pattern V T P} {v v' : V} (h : p.take v = .error v')
    (f : P → Act ε σ R) : p.demand v >>= f = wrongBranch p.tag (tag v') := by
  rw [Pattern.demand_of_error h]
  rfl

/-- A closed chain that takes its payload searches among its cases and falls back to the default. -/
theorem run_close_eq_search {p : Pattern V T P} {v : V} {x : P} (h : p.take v = .ok x)
    (cases : List (Case ε σ P R)) (default : P → Act ε σ R) :
    ((ofList p cases).close default).run v =
      search (cases.map (Case.turn x)) >>= fun given => given.getD (default x) := by
  rw [ofList_eq, ← runCases_eq_search]
  exact Registration.answer_of_executes (.chain h)

/-- An open chain that takes its payload searches among its cases. -/
theorem run_leaveOpen_eq_search {p : Pattern V T P} {v : V} {x : P} (h : p.take v = .ok x)
    (cases : List (Case ε σ P R)) :
    ((ofList p cases).leaveOpen).run v = search (cases.map (Case.turn x)) >>= runGiven := by
  rw [ofList_eq, ← runCases?_eq_search]
  show p.demand v >>= (fun x => runCases? x cases) = _
  rw [Pattern.demand_of_take h, pure_bind]

/-- **First guard that accepts.** A chain that cannot take its payload is a defect and calls
nothing. Else its cases take turns on the payload, and come to something, and the guards that are
asked are those of the cases that had their turn, in order. If a guard accepts, then the handler of
its case follows; if none does, then the default of a closed chain, and nothing in an open one; and
if a guard has no answer, nothing follows. An open chain has a result exactly if a guard accepted.
A closed chain that is used as an open one wraps its result and logs the same. -/
theorem first_accepting_runs (p : Pattern V T P) (cases : List (Case ε σ P R))
    (default : P → Act ε σ R) (v : V) (s : σ) :
    (∀ v', p.take v = .error v' →
      ((ofList p cases).close default).run v s = wrongBranch p.tag (tag v') s ∧
      ((ofList p cases).leaveOpen).run v s = wrongBranch p.tag (tag v') s) ∧
    (∀ x, p.take v = .ok x →
      (∃ had outcome, TakeTurns (Case.turn x) cases s had outcome) ∧
      ∀ had outcome, TakeTurns (Case.turn x) cases s had outcome →
        had <+: cases ∧
        (∀ handler, outcome = .given handler →
          ((ofList p cases).close default).run v s = (do
            inTurn (Case.guardsAt x had)
            handler) s ∧
          ((ofList p cases).leaveOpen).run v s = (do
            inTurn (Case.guardsAt x had)
            some <$> handler) s) ∧
        (outcome = .nothing → had = cases ∧
          ((ofList p cases).close default).run v s = (do
            inTurn (Case.guardsAt x had)
            default x) s ∧
          ((ofList p cases).leaveOpen).run v s = (do
            inTurn (Case.guardsAt x had)
            pure none) s) ∧
        (outcome = .cutShort →
          (∀ next, ((ofList p cases).close default).run v s = (do
            inTurn (Case.guardsAt x had)
            next) s) ∧
          ∀ next, ((ofList p cases).leaveOpen).run v s = (do
            inTurn (Case.guardsAt x had)
            next) s) ∧
        ∀ o, (((ofList p cases).leaveOpen).run v s).ending = .done o →
          (o.isSome ↔ ∃ handler, outcome = .given handler)) ∧
    ((ofList p cases).close default).toOpen.run v s =
      ⟨(((ofList p cases).close default).run v s).ending.map some,
        (((ofList p cases).close default).run v s).state,
        (((ofList p cases).close default).run v s).log⟩ := by
  refine ⟨fun v' htake => ?_, fun x htake => ⟨exists_takeTurns _ cases s, ?_⟩, ?_⟩
  · rw [ofList_eq]
    exact ⟨congrFun (demand_bind_of_error htake _) s, congrFun (demand_bind_of_error htake _) s⟩
  · intro had outcome h
    rw [run_close_eq_search htake, run_leaveOpen_eq_search htake]
    refine ⟨h.isPrefix_had, ?_, fun hnothing => ⟨h.had_eq hnothing, ?_⟩, ?_, ?_⟩
    · rintro handler rfl
      rw [h.search_bind (.given handler), h.search_bind (.given handler), Case.inTurn_map_turn]
      exact ⟨rfl, rfl⟩
    · subst hnothing
      rw [h.search_bind .nothing, h.search_bind .nothing, Case.inTurn_map_turn]
      exact ⟨rfl, rfl⟩
    · rintro rfl
      refine ⟨fun next => ?_, fun next => ?_⟩
      · rw [h.search_bind (.cutShort next), Case.inTurn_map_turn]
      · rw [h.search_bind (.cutShort next), Case.inTurn_map_turn]
    · exact fun o ho => h.isSome_iff ho
  · rw [← map_apply, ← bind_pure_comp]
    rfl

end Cases

/-! ## Circles -/

namespace Circles

open Registry Script

/-- A case that panics when it is asked. -/
def panickingCase {P : Type} : Case String Nat P Unit where
  guard _ := Act.panic "guard"
  handler _ := Act.panic "handler"

theorem takeTurns_counted {P : Type} (x : P) :
    TakeTurns (Case.turn x) [countedCase "first", countedCase "second", panickingCase] 0
      [countedCase "first", countedCase "second"] (.given (Act.write "second")) :=
  .pass rfl (.given rfl _)

theorem takeTurns_refused {P : Type} (x : P) :
    TakeTurns (Case.turn x) [countedCase "first"] 0 [countedCase "first"] .nothing :=
  .pass rfl (.nothing _)

end Circles

theorem first_accepting_runs_seven :
    ((Cases.ofList (Circles.circle.pattern PayloadType.Val) [Circles.countedCase "first",
        Circles.countedCase "second", Circles.panickingCase]).close
        (fun _ => Act.panic "default")).run Circles.seven 0 =
      ⟨.done (), 2, [.wrote "asked", .wrote "asked", .wrote "second"]⟩ ∧
    ((Cases.ofList (Circles.circle.pattern PayloadType.Val)
        [Circles.countedCase "first"]).leaveOpen).run Circles.seven 0 =
      ⟨.done none, 1, [.wrote "asked"]⟩ ∧
    ((Cases.ofList (Circles.dot.pattern PayloadType.Val)
        [Circles.countedCase "first"]).leaveOpen).run Circles.seven 0 =
      wrongBranch Circles.dot Circles.circle 0 := by
  obtain ⟨-, hclosed, -⟩ := Cases.first_accepting_runs (Circles.circle.pattern PayloadType.Val)
    [Circles.countedCase "first", Circles.countedCase "second", Circles.panickingCase]
    (fun _ => Act.panic "default") Circles.seven 0
  obtain ⟨-, hopen, -⟩ := Cases.first_accepting_runs (Circles.circle.pattern PayloadType.Val)
    [Circles.countedCase "first"] (fun _ => Act.panic "default") Circles.seven 0
  obtain ⟨hwrong, -⟩ := Cases.first_accepting_runs (Circles.dot.pattern PayloadType.Val)
    [Circles.countedCase "first"] (fun _ => Act.panic "default") Circles.seven 0
  obtain ⟨-, hgiven, -⟩ := (hclosed _ rfl).2 _ _ (Circles.takeTurns_counted _)
  obtain ⟨-, -, hnothing, -⟩ := (hopen _ rfl).2 _ _ (Circles.takeTurns_refused _)
  exact ⟨(hgiven _ rfl).1, (hnothing rfl).2.2, (hwrong _ rfl).2⟩

end TagDispatch
