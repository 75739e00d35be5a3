import TagDispatch.Proofs.Arms
import TagDispatch.Proofs.Execution

/-!
# The protocol of defects

Tables of both kinds, conditionals, and branches whose body or guard is entered by hand: whatever
their patterns do, a run of them is made of calls of the caller's code, and the only defects are a
missing handler and a wrong branch. So all of them keep the protocol of `Run.Protocol`.

The lemmas here say of each of them that it is orderly if the code is. Entries of a conditional are
described by their parts, `Branch.PartsIn`, since any thunks can be put together to an entry.
-/

namespace TagDispatch

variable {ε σ V T P R O : Type} {Q : (α : Type) → Act ε σ α → Prop}

/-! ## Payloads -/

section Payloads

variable [Tagged V T] [Tag T]

theorem orderly_wrongBranch (expected found : T) :
    (wrongBranch expected found : Act ε σ R).Orderly Q :=
  Act.orderly_defect (.branchKeyMismatch _ _)

/-- To demand a payload calls nothing. -/
theorem Pattern.demand_orderly (p : Pattern V T P) (v : V) :
    (p.demand v : Act ε σ P).Orderly Q := by
  unfold Pattern.demand
  cases p.take v with
  | ok x => exact (Act.orderly_compositional Q).ofResult x
  | error v' => exact orderly_wrongBranch _ _

/-- Code that is entered on a payload is called, or it is a defect. -/
theorem orderly_onPayload {p : Pattern V T P} {v : V} {f : P → Act ε σ R}
    (hf : ∀ x, (f x).Orderly Q) : (onPayload v p f).Orderly Q := by
  unfold onPayload
  cases p.peek? v with
  | some x => exact hf x
  | none => exact orderly_wrongBranch _ _

end Payloads

/-! ## Tables -/

section Tables

variable [Tagged V T] [DecidableEq T] [Tag T]

omit [DecidableEq T] in
theorem Registration.answer_orderly {call : Registration ε σ V T R}
    (hcode : call.CodeIn fun _ x => x.Orderly Q) (v : V) : (call.answer v).Orderly Q :=
  answer_of_code (Act.orderly_compositional Q) (patternIn_of_forall fun p => p.demand_orderly v)
    hcode

/-- A table over orderly code is orderly. -/
theorem Table.dispatch_orderly {calls : List (Registration ε σ V T R)}
    (hcode : ∀ call ∈ calls, call.CodeIn fun _ x => x.Orderly Q) (v : V) :
    ((ofRegistrations calls).dispatch v).Orderly Q := by
  have hcompositional := Act.orderly_compositional Q
  cases hlast : lastCall Registration.tag? calls (tag v) with
  | some call =>
    rw [dispatch_of_lastCall hlast]
    refine hcompositional.ofBind (Act.orderly_notice (by simp [Notice.event])) fun _ => ?_
    exact Registration.answer_orderly (hcode call (mem_of_lastCall hlast)) v
  | none =>
    cases hf : calls.findSomeRev? Registration.fallback? with
    | some f =>
      rw [dispatch_of_fallback hlast hf]
      refine hcompositional.ofBind (Act.orderly_notice (by simp [Notice.event])) fun _ => ?_
      exact Registration.codeIn_of_lastFallback hf hcode
    | none =>
      rw [dispatch_of_nothing hlast hf]
      exact Act.orderly_defect (.handlerKey _)

/-- A partial table over orderly code is orderly. -/
theorem PartialTable.dispatch_orderly {calls : List (PartialRegistration ε σ V T R)}
    (hcode : ∀ call ∈ calls, call.CodeIn fun _ x => x.Orderly Q) (v : V) :
    ((ofRegistrations calls).dispatch v).Orderly Q := by
  have hcompositional := Act.orderly_compositional Q
  cases hlast : lastCall PartialRegistration.tag? calls (tag v) with
  | some call =>
    have hcall := (hcode call (mem_of_lastCall hlast)).optional hcompositional
    rw [dispatch_of_lastCall hlast]
    refine hcompositional.ofBind (Act.orderly_notice (by simp [Notice.event])) fun _ => ?_
    exact Registration.answer_orderly hcall v
  | none =>
    cases hf : calls.findSomeRev? PartialRegistration.fallback? with
    | some f =>
      rw [dispatch_of_fallback hlast hf]
      refine hcompositional.ofBind (Act.orderly_notice (by simp [Notice.event])) fun _ => ?_
      exact hcompositional.ofMap (PartialRegistration.codeIn_of_lastFallback hf hcode) some
    | none =>
      rw [dispatch_of_nothing hlast hf]
      refine hcompositional.ofBind (Act.orderly_notice (by simp [Notice.event])) fun _ => ?_
      exact hcompositional.ofResult none

end Tables

/-! ## Branches -/

/-- What an entry of a conditional holds to be run: code, or code for the payload of a pattern. -/
inductive Thunk (Q : (α : Type) → Act ε σ α → Prop) : (α : Type) → Act ε σ α → Prop
  | code {α : Type} {x : Act ε σ α} (h : Q α x) : Thunk Q α x
  | onPayload {V T P α : Type} [Tagged V T] [Tag T] (v : V) (p : Pattern V T P)
      {f : P → Act ε σ α} (h : ∀ x, Q α (f x)) : Thunk Q α (TagDispatch.onPayload v p f)

namespace Branch

/-- The parts of a branch that can be run have the property. -/
def PartsIn (Q : (α : Type) → Act ε σ α → Prop) : Branch ε σ R → Prop
  | plain _ body => Q R body
  | bound _ body => Q R body
  | guarded _ guard body => Q Bool guard ∧ Q R body

/-- The guard, if the branch has one. -/
def guard? : Branch ε σ R → Option (Act ε σ Bool)
  | guarded _ guard _ => some guard
  | _ => none

theorem PartsIn.imp {Q' : (α : Type) → Act ε σ α → Prop} {branch : Branch ε σ R}
    (himp : ∀ {α : Type} {x : Act ε σ α}, Q α x → Q' α x) (h : branch.PartsIn Q) :
    branch.PartsIn Q' := by
  cases branch with
  | plain holds body => exact himp h
  | bound found body => exact himp h
  | guarded found guard body => exact ⟨himp h.1, himp h.2⟩

theorem PartsIn.body {branch : Branch ε σ R} (h : branch.PartsIn Q) : Q R branch.body := by
  cases branch with
  | plain holds body => exact h
  | bound found body => exact h
  | guarded found guard body => exact h.2

theorem PartsIn.guard {branch : Branch ε σ R} (h : branch.PartsIn Q) {guard : Act ε σ Bool}
    (hguard : branch.guard? = some guard) : Q Bool guard := by
  cases branch with
  | plain holds body => cases hguard
  | bound found body => cases hguard
  | guarded found guard' body =>
    cases hguard
    exact h.1

section OfPattern

variable [Tagged V T] [Tag T] {v : V} {p : Pattern V T P} {body : P → Act ε σ R}

theorem ofPattern_partsIn (hbody : ∀ x, Q R (body x)) :
    (ofPattern v p body).PartsIn (Thunk Q) :=
  .onPayload v p hbody

theorem ofGuard_partsIn {guard : P → Act ε σ Bool} (hguard : ∀ x, Q Bool (guard x))
    (hbody : ∀ x, Q R (body x)) : (ofGuard v p guard body).PartsIn (Thunk Q) :=
  ⟨.onPayload v p hguard, .onPayload v p hbody⟩

end OfPattern

/-- A branch with orderly parts is tried in an orderly way. -/
theorem attempt_orderly {branch : Branch ε σ R} (h : branch.PartsIn fun _ x => x.Orderly Q) :
    branch.attempt.Orderly Q := by
  have hcompositional := Act.orderly_compositional Q
  have hif : ∀ {b : Bool} {body : Act ε σ R}, body.Orderly Q →
      (if b then some <$> body else pure none : Act ε σ (Option R)).Orderly Q := by
    intro b body hbody
    cases b with
    | false => exact hcompositional.ofResult none
    | true => exact hcompositional.ofMap hbody some
  cases branch with
  | plain holds body => exact hif h
  | bound found body => exact hif h
  | guarded found guard body =>
    cases found with
    | false => exact hcompositional.ofResult none
    | true => exact hcompositional.ofBind h.1 fun accepted => hif h.2

/-- What gives an entry of a conditional when its turn comes: nothing but the entry, or code. -/
inductive Builds (Q : (α : Type) → Act ε σ α → Prop) : Act ε σ (Branch ε σ R) → Prop
  | entry {branch : Branch ε σ R} (h : branch.PartsIn (Thunk Q)) : Builds Q (pure branch)
  | code {build : Act ε σ (Branch ε σ R)} (h : Q _ build)
      (hparts : ∀ s branch, (build s).ending = .done branch → branch.PartsIn (Thunk Q)) :
      Builds Q build

end Branch

section Foreign

variable (hQ : ∀ {α : Type} {x : Act ε σ α}, Q α x → x.Foreign)
include hQ

theorem Thunk.orderly {α : Type} {x : Act ε σ α} (h : Thunk Q α x) : x.Orderly Q := by
  cases h with
  | code hx => exact Act.orderly_of_code hQ hx
  | onPayload v p hf => exact orderly_onPayload fun x => Act.orderly_of_code hQ (hf x)

/-- Entries are built and tried in an orderly way, up to the first that fires. -/
theorem Branch.first_orderly {builds : List (Act ε σ (Branch ε σ R))}
    (h : ∀ build ∈ builds, Builds Q build) : (first builds).Orderly Q := by
  have hcompositional := Act.orderly_compositional Q
  induction builds with
  | nil => exact hcompositional.ofResult none
  | cons build rest ih =>
    obtain ⟨hbuild, hrest⟩ := List.forall_mem_cons.mp h
    -- whatever entry is built, it is tried, and the rest follows only if it does not fire
    have htry : ∀ branch : Branch ε σ R, branch.PartsIn (Thunk Q) →
        (first (pure branch :: rest)).Orderly Q := by
      intro branch hbranch
      rw [first_pure_cons]
      have hattempt := attempt_orderly (hbranch.imp (Thunk.orderly hQ))
      refine hcompositional.ofBind hattempt fun fired => ?_
      cases fired with
      | some r => exact hcompositional.ofResult (some r)
      | none => exact ih hrest
    cases hbuild with
    | entry hbranch => exact htry _ hbranch
    | code hcode hparts =>
      refine (Act.orderly_of_code hQ hcode).bind fun s branch hbranch => ?_
      have hfirst := htry branch (hparts s branch hbranch)
      rw [first_pure_cons] at hfirst
      exact hfirst

end Foreign

/-! ## Conditionals -/

/-- A completion by nothing, or by an else that is code. -/
inductive Completion.In (Q : (α : Type) → Act ε σ α → Prop) :
    {O : Type} → Completion ε σ R O → Prop
  | optional : In Q .optional
  | orElse {f : Act ε σ R} (h : Q R f) : In Q (.orElse f)

namespace Conditional

variable {completion : Completion ε σ R O} {branches : List (Act ε σ (Branch ε σ R))}

section Foreign

variable (hQ : ∀ {α : Type} {x : Act ε σ α}, Q α x → x.Foreign)
include hQ

/-- To complete a conditional is orderly, whether or not a branch fired. -/
theorem complete_orderly (h : completion.In Q) (fired : Option R) :
    (completion.complete fired).Orderly Q := by
  have hcompositional := Act.orderly_compositional Q
  cases h with
  | optional => exact hcompositional.ofResult fired
  | orElse hf =>
    cases fired with
    | some r => exact hcompositional.ofResult r
    | none => exact Act.orderly_of_code hQ hf

theorem rest_orderly (hbranches : ∀ build ∈ branches, Branch.Builds Q build)
    (hcompletion : completion.In Q) : (rest branches completion).Orderly Q :=
  (Act.orderly_compositional Q).ofBind (Branch.first_orderly hQ hbranches)
    (complete_orderly hQ hcompletion)

/-- A primary branch that fires runs its body and completes the conditional. -/
theorem fires_orderly {body : Act ε σ R} (hbody : Q R body) (hcompletion : completion.In Q) :
    (body >>= fun r => completion.complete (some r)).Orderly Q :=
  (Act.orderly_compositional Q).ofBind (Act.orderly_of_code hQ hbody) fun r =>
    complete_orderly hQ hcompletion (some r)

theorem plain_orderly {holds : Bool} {body : Act ε σ R} (hbody : Q R body)
    (hbranches : ∀ build ∈ branches, Branch.Builds Q build) (hcompletion : completion.In Q) :
    (plain holds body branches completion).Orderly Q := by
  cases holds with
  | false => exact rest_orderly hQ hbranches hcompletion
  | true => exact fires_orderly hQ hbody hcompletion

theorem bound_orderly {v : V} {p : Pattern V T P} {body : P → Act ε σ R} (hbody : ∀ x, Q R (body x))
    (hbranches : ∀ build ∈ branches, Branch.Builds Q build) (hcompletion : completion.In Q) :
    (bound v p body branches completion).Orderly Q := by
  unfold bound
  cases p.peek? v with
  | none => exact rest_orderly hQ hbranches hcompletion
  | some x => exact fires_orderly hQ (hbody x) hcompletion

theorem guarded_orderly {v : V} {p : Pattern V T P} {guard : P → Act ε σ Bool}
    {body : P → Act ε σ R} (hguard : ∀ x, Q Bool (guard x)) (hbody : ∀ x, Q R (body x))
    (hbranches : ∀ build ∈ branches, Branch.Builds Q build) (hcompletion : completion.In Q) :
    (guarded v p guard body branches completion).Orderly Q := by
  unfold guarded
  cases p.peek? v with
  | none => exact rest_orderly hQ hbranches hcompletion
  | some x =>
    have hasked := Act.orderly_of_code hQ (hguard x)
    refine (Act.orderly_compositional Q).ofBind hasked fun accepted => ?_
    cases accepted with
    | false => exact rest_orderly hQ hbranches hcompletion
    | true => exact fires_orderly hQ (hbody x) hcompletion

end Foreign

end Conditional

/-! ## Entries into the dispatcher -/

/-- What the caller can enter with its code: a table, a conditional, or a thunk of a branch, whether
or not the branch fires. -/
inductive Entered (Q : (α : Type) → Act ε σ α → Prop) : {α : Type} → Act ε σ α → Prop
  | table {V T R : Type} [Tagged V T] [DecidableEq T] [Tag T]
      {calls : List (Registration ε σ V T R)} (hcode : ∀ call ∈ calls, call.CodeIn Q) (v : V) :
      Entered Q ((Table.ofRegistrations calls).dispatch v)
  | partialTable {V T R : Type} [Tagged V T] [DecidableEq T] [Tag T]
      {calls : List (PartialRegistration ε σ V T R)} (hcode : ∀ call ∈ calls, call.CodeIn Q)
      (v : V) : Entered Q ((PartialTable.ofRegistrations calls).dispatch v)
  | plain {R O : Type} (holds : Bool) {body : Act ε σ R} (hbody : Q R body)
      {branches : List (Act ε σ (Branch ε σ R))} (hbranches : ∀ b ∈ branches, Branch.Builds Q b)
      {completion : Completion ε σ R O} (hcompletion : completion.In Q) :
      Entered Q (Conditional.plain holds body branches completion)
  | bound {V T P R O : Type} (v : V) (p : Pattern V T P) {body : P → Act ε σ R}
      (hbody : ∀ x, Q R (body x)) {branches : List (Act ε σ (Branch ε σ R))}
      (hbranches : ∀ b ∈ branches, Branch.Builds Q b) {completion : Completion ε σ R O}
      (hcompletion : completion.In Q) :
      Entered Q (Conditional.bound v p body branches completion)
  | guarded {V T P R O : Type} (v : V) (p : Pattern V T P) {guard : P → Act ε σ Bool}
      (hguard : ∀ x, Q Bool (guard x)) {body : P → Act ε σ R} (hbody : ∀ x, Q R (body x))
      {branches : List (Act ε σ (Branch ε σ R))} (hbranches : ∀ b ∈ branches, Branch.Builds Q b)
      {completion : Completion ε σ R O} (hcompletion : completion.In Q) :
      Entered Q (Conditional.guarded v p guard body branches completion)
  | body {R : Type} {branch : Branch ε σ R} (h : branch.PartsIn (Thunk Q)) : Entered Q branch.body
  | guard {R : Type} {branch : Branch ε σ R} (h : branch.PartsIn (Thunk Q)) {guard : Act ε σ Bool}
      (hguard : branch.guard? = some guard) : Entered Q guard

theorem Entered.orderly (hQ : ∀ {α : Type} {x : Act ε σ α}, Q α x → x.Foreign) {x : Act ε σ O}
    (h : Entered Q x) : x.Orderly Q := by
  have hcode : ∀ {α : Type} {y : Act ε σ α}, Q α y → y.Orderly Q := Act.orderly_of_code hQ
  cases h with
  | table hcalls v =>
    exact Table.dispatch_orderly (fun call hcall => (hcalls call hcall).imp hcode) v
  | partialTable hcalls v =>
    exact PartialTable.dispatch_orderly (fun call hcall => (hcalls call hcall).imp hcode) v
  | plain holds hbody hbranches hcompletion =>
    exact Conditional.plain_orderly hQ hbody hbranches hcompletion
  | bound v p hbody hbranches hcompletion =>
    exact Conditional.bound_orderly hQ hbody hbranches hcompletion
  | guarded v p hguard hbody hbranches hcompletion =>
    exact Conditional.guarded_orderly hQ hguard hbody hbranches hcompletion
  | body hbranch => exact hbranch.body.orderly hQ
  | guard hbranch hguard => exact (hbranch.guard hguard).orderly hQ

/-- **Protocol of defects.** Whatever the caller enters with code that is foreign to the dispatcher,
the run is made of calls of that code, and keeps the protocol: it panics for a missing handler or a
wrong branch, which is noted once and last, or else notes no defect, and the panic of a call is its
end, with nothing called afterwards. -/
theorem entered_protocol (hQ : ∀ (α : Type) (x : Act ε σ α), Q α x → x.Foreign) {x : Act ε σ O}
    (h : Entered Q x) (s : σ) : ∃ calls, Execution Q s calls (x s) ∧ (x s).Protocol calls := by
  have hforeign : ∀ {α : Type} {y : Act ε σ α}, Q α y → y.Foreign := fun hy => hQ _ _ hy
  obtain ⟨calls, hcalls⟩ := h.orderly hforeign s
  exact ⟨calls, hcalls, hcalls.protocol hforeign⟩

/-! ## Circles -/

namespace Circles

open Registry Script

/-- The code that is called for circles. -/
inductive Code : (α : Type) → Act String Nat α → Prop
  | guard : Code Bool (Act.panic "guard")
  | handler : Code Unit (Act.write "handler")

theorem code_foreign (α : Type) (x : Act String Nat α) (h : Code α x) : x.Foreign := by
  cases h with
  | guard => exact Act.foreign_panic _
  | handler => exact Act.foreign_write _

/-- A chain with a guard that panics. -/
def panickingCalls :
    List (Registration String Nat (Sample.shape.Value PayloadType.Val) Sample.shape.Tag Unit) :=
  [.chain
    { pattern := circle.pattern _
      cases := [⟨fun _ => Act.panic "guard", fun _ => Act.write "handler"⟩] }
    fun _ => Act.write "handler"]

theorem panickingCalls_code : ∀ call ∈ panickingCalls, call.CodeIn Code := by
  simp only [panickingCalls, List.forall_mem_cons, Registration.CodeIn]
  exact ⟨⟨⟨⟨fun _ => .guard, fun _ => .handler⟩, by simp⟩, fun _ => .handler⟩, by simp⟩

/-- A branch for dots, over a circle. -/
def dotBranch : Branch String Nat Unit :=
  .ofPattern seven (dot.pattern PayloadType.Val) fun _ => Act.write "handler"

/-- A branch for dots with a guard, over a circle. -/
def guardedDotBranch : Branch String Nat Unit :=
  .ofGuard seven (dot.pattern PayloadType.Val) (fun _ => Act.panic "guard")
    fun _ => Act.write "handler"

/-- The guard of the branch, to be entered by hand. -/
def dotGuard : Act String Nat Bool :=
  onPayload seven (dot.pattern PayloadType.Val) fun _ => Act.panic "guard"

end Circles

theorem entered_protocol_seven :
    ((Table.ofRegistrations Circles.panickingCalls).dispatch Circles.seven 0).ending =
        .panicked "guard" ∧
      (∃ calls, Execution Circles.Code 0 calls
          ((Table.ofRegistrations Circles.panickingCalls).dispatch Circles.seven 0) ∧
        ((Table.ofRegistrations Circles.panickingCalls).dispatch Circles.seven 0).Protocol calls) ∧
      (Circles.dotBranch.body 0).ending = .defective (.branchKeyMismatch "Dot" "Circle") ∧
      (∃ calls, Execution Circles.Code 0 calls (Circles.dotBranch.body 0) ∧
        (Circles.dotBranch.body 0).Protocol calls) ∧
      Circles.guardedDotBranch.guard? = some Circles.dotGuard ∧
      ∃ calls, Execution Circles.Code 0 calls (Circles.dotGuard 0) ∧
        (Circles.dotGuard 0).Protocol calls := by
  have hdot : Circles.dotBranch.PartsIn (Thunk Circles.Code) :=
    Branch.ofPattern_partsIn fun _ => .handler
  have hguarded : Circles.guardedDotBranch.PartsIn (Thunk Circles.Code) :=
    Branch.ofGuard_partsIn (fun _ => .guard) fun _ => .handler
  exact ⟨rfl,
    entered_protocol Circles.code_foreign (.table Circles.panickingCalls_code Circles.seven) 0,
    rfl, entered_protocol Circles.code_foreign (.body hdot) 0,
    rfl, entered_protocol Circles.code_foreign (.guard hguarded rfl) 0⟩

end TagDispatch
