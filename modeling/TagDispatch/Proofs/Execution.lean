import Mathlib.Data.List.Basic
import TagDispatch.Proofs.Code

/-!
# Executions

What a computation does by itself is little: it calls code of the caller, writes notices, and may
end in a defect. `Execution` says that a run is made of such steps, one after the other from the
state that the last one left, and nothing after a panic or a defect.

Being made of calls of some code is compositional, `Act.orderly_compositional`, so it passes from
the code to everything that is built from it. What follows for a single run is `Run.Protocol`: a
defect is noted exactly once and last, and the panic of a call is the end of the run.
-/

namespace TagDispatch

variable {ε σ α β : Type}

/-! ## Runs in sequence -/

namespace Run

/-- The run with a log ahead of its own. -/
def after (r : Run ε σ α) (log : List (Entry ε)) : Run ε σ α := { r with log := log ++ r.log }

/-- The run that goes on with a computation on its result, if there is one. -/
def follow (r : Run ε σ α) (f : α → Act ε σ β) : Run ε σ β :=
  match r.ending with
  | .done a => (f a r.state).after r.log
  | .panicked text => ⟨.panicked text, r.state, r.log⟩
  | .defective e => ⟨.defective e, r.state, r.log⟩

@[simp]
theorem after_log (r : Run ε σ α) (log : List (Entry ε)) : (r.after log).log = log ++ r.log := rfl

theorem after_follow (r : Run ε σ α) (log : List (Entry ε)) (f : α → Act ε σ β) :
    (r.after log).follow f = (r.follow f).after log := by
  obtain ⟨_ | _ | _, s, own⟩ := r <;> simp [follow, after]

end Run

theorem Act.bind_eq_follow (x : Act ε σ α) (f : α → Act ε σ β) (s : σ) :
    (x >>= f) s = (x s).follow f := by
  rw [Act.bind_apply]
  rcases x s with ⟨_ | _ | _, s', log⟩ <;> rfl

/-! ## Executions -/

/-- A call of code of the caller: the code, and the state that it was called from. -/
structure Call (ε σ : Type) : Type 1 where
  {α : Type}
  code : Act ε σ α
  start : σ

/-- What the called code does. -/
def Call.run (c : Call ε σ) : Run ε σ c.α := c.code c.start

/-- A defect ends the run that meets it: a missing handler, or a branch for another tag. -/
inductive Error.IsDefect : Error → Prop
  | handlerKey (tag : String) : IsDefect (.handlerKey tag)
  | branchKeyMismatch (expected found : String) : IsDefect (.branchKeyMismatch expected found)

/-- A run from a state is made of calls of the code that `Q` admits, in this order, with notices
among them. A call that panics ends the run with its panic, and so does a defect, once it is
noted. -/
inductive Execution (Q : (β : Type) → Act ε σ β → Prop) {α : Type} :
    σ → List (Call ε σ) → Run ε σ α → Prop
  | done (a : α) (s : σ) : Execution Q s [] ⟨.done a, s, []⟩
  | defect {e : Error} (he : e.IsDefect) (s : σ) :
      Execution Q s [] ⟨.defective e, s, [.notice (.defect e.message)]⟩
  | notice {n : Notice} (hn : n.event ≠ "match.defect") {s : σ} {calls : List (Call ε σ)}
      {r : Run ε σ α} (hr : Execution Q s calls r) : Execution Q s calls (r.after [.notice n])
  | call {c : Call ε σ} (hc : Q c.α c.code) {b : c.α} {s : σ} {log : List (Entry ε)}
      (hb : c.run = ⟨.done b, s, log⟩) {calls : List (Call ε σ)} {r : Run ε σ α}
      (hr : Execution Q s calls r) : Execution Q c.start (c :: calls) (r.after log)
  | panic {c : Call ε σ} (hc : Q c.α c.code) {text : String} {s : σ} {log : List (Entry ε)}
      (ht : c.run = ⟨.panicked text, s, log⟩) : Execution Q c.start [c] ⟨.panicked text, s, log⟩

/-- Every run of the computation is made of calls of the code that `Q` admits. -/
def Act.Orderly (Q : (β : Type) → Act ε σ β → Prop) (x : Act ε σ α) : Prop :=
  ∀ s, ∃ calls, Execution Q s calls (x s)

section Sequences

variable {Q : (β : Type) → Act ε σ β → Prop} {s : σ}

/-- An execution goes on with that of the computation which follows its result. -/
theorem Execution.follow {calls : List (Call ε σ)} {r : Run ε σ α} (hr : Execution Q s calls r)
    {f : α → Act ε σ β}
    (hf : ∀ a, r.ending = .done a → ∃ later, Execution Q r.state later (f a r.state)) :
    ∃ all, Execution Q s all (r.follow f) := by
  induction hr with
  | done a s => exact hf a rfl
  | defect he s => exact ⟨[], .defect he s⟩
  | notice hn _ ih =>
    obtain ⟨all, hall⟩ := ih hf
    rw [Run.after_follow]
    exact ⟨all, .notice hn hall⟩
  | @call c hc _ _ _ hb _ _ _ ih =>
    obtain ⟨all, hall⟩ := ih hf
    rw [Run.after_follow]
    exact ⟨c :: all, .call hc hb hall⟩
  | @panic c hc _ _ _ ht => exact ⟨[c], .panic hc ht⟩

end Sequences

namespace Act

variable {Q : (β : Type) → Act ε σ β → Prop}

/-- A sequence is orderly if its first part is, and what follows a result of it. -/
theorem Orderly.bind {x : Act ε σ α} (hx : x.Orderly Q) {f : α → Act ε σ β}
    (hf : ∀ s a, (x s).ending = .done a → (f a).Orderly Q) : (x >>= f).Orderly Q := by
  intro s
  obtain ⟨calls, hcalls⟩ := hx s
  rw [bind_eq_follow]
  exact hcalls.follow fun a ha => hf s a ha _

theorem orderly_compositional (Q : (β : Type) → Act ε σ β → Prop) :
    Compositional fun _ (x : Act ε σ _) => x.Orderly Q where
  ofResult a s := ⟨[], .done a s⟩
  ofBind hx hf := hx.bind fun _ a _ => hf a

/-- Foreign code is a single call of itself. -/
theorem orderly_of_code (hQ : ∀ {β : Type} {x : Act ε σ β}, Q β x → x.Foreign) {x : Act ε σ α}
    (hx : Q α x) : x.Orderly Q := by
  intro s
  rcases hrun : x s with ⟨a | text | e, s', log⟩
  · have hcall := Execution.call (c := ⟨x, s⟩) hx hrun (Execution.done a s')
    exact ⟨_, by simpa [Run.after] using hcall⟩
  · exact ⟨[⟨x, s⟩], .panic (c := ⟨x, s⟩) hx hrun⟩
  · have hdefect : (x s).ending = .defective e := by rw [hrun]
    exact absurd hdefect ((hQ hx).avoids e s)

theorem orderly_notice {n : Notice} (hn : n.event ≠ "match.defect") :
    (notice n : Act ε σ Unit).Orderly Q :=
  fun s => ⟨[], .notice hn (.done () s)⟩

theorem orderly_defect {e : Error} (he : e.IsDefect) : (defect e : Act ε σ α).Orderly Q :=
  fun s => ⟨[], .defect he s⟩

end Act

/-! ## The protocol of a run -/

/-- The notices of defects in a log. -/
def defectNotices (log : List (Entry ε)) : List Notice :=
  log.filterMap fun
    | .notice n => if n.event = "match.defect" then some n else none
    | .wrote _ => none

/-- What the caller can rely on in a run that made some calls. -/
structure Run.Protocol (calls : List (Call ε σ)) (r : Run ε σ α) : Prop where
  /-- A defect is noted once, as the last entry, with the text that the run panics with. -/
  of_defective : ∀ e, r.ending = .defective e → e.IsDefect ∧
    ∃ n, defectNotices r.log = [n] ∧ r.log.getLast? = some (.notice n) ∧ n.level = "ERROR" ∧
      n.subject.1 = "error" ∧ r.ending.panicText? = some n.subject.2
  /-- Without a defect none is noted. -/
  of_not_defective : (∀ e, r.ending ≠ .defective e) → defectNotices r.log = []
  /-- A call that panics is the last one, and the run ends as the call does. -/
  of_panic : ∀ earlier c later text, calls = earlier ++ c :: later →
    c.run.ending = .panicked text →
      later = [] ∧ r.ending = .panicked text ∧ r.state = c.run.state ∧ c.run.log <:+ r.log
  /-- A panic is that of the last call. -/
  of_panicked : ∀ text, r.ending = .panicked text →
    ∃ earlier c, calls = earlier ++ [c] ∧ c.run.ending = .panicked text

theorem defectNotices_append (log log' : List (Entry ε)) :
    defectNotices (log ++ log') = defectNotices log ++ defectNotices log' :=
  List.filterMap_append

/-- Foreign code notes no defect. -/
theorem Act.Foreign.defectNotices_eq {x : Act ε σ α} (hx : x.Foreign) (s : σ) :
    defectNotices (x s).log = [] := by
  rw [defectNotices, List.filterMap_eq_nil_iff]
  intro entry hentry
  cases entry with
  | wrote _ => rfl
  | notice n => exact absurd hentry (hx.notice_notMem s n)

/-- A defect is noted at the end of the log, and nothing is noted without one. -/
structure Run.Noted (r : Run ε σ α) : Prop where
  of_defective : ∀ e, r.ending = .defective e → e.IsDefect ∧
    defectNotices r.log = [.defect e.message] ∧
      r.log.getLast? = some (.notice (.defect e.message))
  of_not_defective : (∀ e, r.ending ≠ .defective e) → defectNotices r.log = []

/-- What is logged ahead of a run without noting a defect leaves its last entry where it is. -/
theorem Run.Noted.after {r : Run ε σ α} (h : r.Noted) {log : List (Entry ε)}
    (hlog : defectNotices log = []) : (r.after log).Noted := by
  have hnotices : defectNotices (r.after log).log = defectNotices r.log := by
    rw [Run.after_log, defectNotices_append, hlog, List.nil_append]
  refine ⟨fun e he => ?_, fun hnone => by rw [hnotices, h.of_not_defective hnone]⟩
  obtain ⟨hdefect, hown, hlast⟩ := h.of_defective e he
  refine ⟨hdefect, by rw [hnotices, hown], ?_⟩
  rw [Run.after_log, List.getLast?_append, hlast]
  rfl

namespace Execution

variable {Q : (β : Type) → Act ε σ β → Prop} {s : σ} {calls : List (Call ε σ)} {r : Run ε σ α}

theorem noted (h : Execution Q s calls r) (hQ : ∀ {β : Type} {x : Act ε σ β}, Q β x → x.Foreign) :
    r.Noted := by
  induction h with
  | done a s => exact ⟨fun e he => (nomatch he), fun _ => rfl⟩
  | @defect e he s =>
    refine ⟨fun e' he' => ?_, fun hnone => absurd rfl (hnone e)⟩
    obtain rfl := Ending.defective.inj he'
    exact ⟨he, rfl, rfl⟩
  | notice hn _ ih => exact ih.after (by simp [defectNotices, hn])
  | @call c hc _ _ log hb _ _ _ ih =>
    have hrun := (hQ hc).defectNotices_eq c.start
    rw [← Call.run, hb] at hrun
    exact ih.after hrun
  | @panic c hc _ _ log ht =>
    have hrun := (hQ hc).defectNotices_eq c.start
    rw [← Call.run, ht] at hrun
    exact ⟨fun e he => (nomatch he), fun _ => hrun⟩

/-- A call that panics is the last one, and the run ends as the call does. -/
theorem of_panic (h : Execution Q s calls r) {earlier later : List (Call ε σ)} {c : Call ε σ}
    {text : String} (hcalls : calls = earlier ++ c :: later)
    (hc : c.run.ending = .panicked text) :
    later = [] ∧ r.ending = .panicked text ∧ r.state = c.run.state ∧ c.run.log <:+ r.log := by
  induction h generalizing earlier with
  | done a s => simp at hcalls
  | defect he s => simp at hcalls
  | notice _ _ ih =>
    obtain ⟨hlater, hending, hstate, hlog⟩ := ih hcalls
    exact ⟨hlater, hending, hstate, hlog.trans (List.suffix_append _ _)⟩
  | call _ hb _ ih =>
    cases earlier with
    | nil =>
      -- this call has a result
      obtain ⟨rfl, -⟩ := List.cons.inj hcalls
      rw [hb] at hc
      cases hc
    | cons c' earlier =>
      obtain ⟨-, hcalls⟩ := List.cons.inj hcalls
      obtain ⟨hlater, hending, hstate, hlog⟩ := ih hcalls
      exact ⟨hlater, hending, hstate, hlog.trans (List.suffix_append _ _)⟩
  | panic _ ht =>
    cases earlier with
    | nil =>
      obtain ⟨rfl, hlater⟩ := List.cons.inj hcalls
      rw [ht] at hc ⊢
      obtain rfl := Ending.panicked.inj hc
      exact ⟨hlater.symm, rfl, rfl, List.suffix_rfl⟩
    | cons c' earlier => simp at hcalls

/-- A panic is that of the last call. -/
theorem of_panicked (h : Execution Q s calls r) {text : String} (hr : r.ending = .panicked text) :
    ∃ earlier c, calls = earlier ++ [c] ∧ c.run.ending = .panicked text := by
  induction h with
  | done a s => cases hr
  | defect he s => cases hr
  | notice _ _ ih => exact ih hr
  | @call c _ _ _ _ _ _ _ _ ih =>
    obtain ⟨earlier, last, hcalls, hlast⟩ := ih hr
    exact ⟨c :: earlier, last, by rw [hcalls, List.cons_append], hlast⟩
  | @panic c _ _ _ _ ht =>
    obtain rfl := Ending.panicked.inj hr
    exact ⟨[], c, rfl, by rw [ht]⟩

/-- A run that is made of calls of foreign code keeps the protocol. -/
theorem protocol (h : Execution Q s calls r)
    (hQ : ∀ {β : Type} {x : Act ε σ β}, Q β x → x.Foreign) : r.Protocol calls where
  of_defective e he := by
    obtain ⟨hdefect, hnotices, hlast⟩ := (h.noted hQ).of_defective e he
    exact ⟨hdefect, _, hnotices, hlast, rfl, rfl, by rw [he]; rfl⟩
  of_not_defective := (h.noted hQ).of_not_defective
  of_panic _ _ _ _ := h.of_panic
  of_panicked _ := h.of_panicked

end Execution

end TagDispatch
