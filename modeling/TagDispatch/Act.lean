import TagDispatch.Error
import TagDispatch.Notice

/-!
# Computations with a log

Handlers, guards and the dispatcher itself run over a state, write to a log, and end in one of three
ways: with a result, with a panic of the code that was called, or with a defect of the dispatcher.
The log only grows, and nothing runs after a panic or a defect.
-/

namespace TagDispatch

/-- An entry of a log: what called code wrote, or a notice of the dispatcher. -/
inductive Entry (ε : Type) where
  | wrote (entry : ε)
  | notice (notice : Notice)
deriving DecidableEq

/-- How a run ends. -/
inductive Ending (α : Type) where
  /-- With a result. -/
  | done (result : α)
  /-- With a panic of the code that was called. -/
  | panicked (text : String)
  /-- With a defect of the dispatcher. -/
  | defective (error : Error)
deriving DecidableEq

/-- The text of the panic that a run ends in; that of a defect is its message. -/
def Ending.panicText? {α : Type} : Ending α → Option String
  | .done _ => none
  | .panicked text => some text
  | .defective e => some e.message

/-- A finished run: how it ended, the state it left, and what it wrote. -/
@[ext]
structure Run (ε σ α : Type) where
  ending : Ending α
  state : σ
  log : List (Entry ε)
deriving DecidableEq

/-- A computation over a state `σ` that writes entries `ε`. -/
def Act (ε σ α : Type) : Type := σ → Run ε σ α

namespace Act

variable {ε σ α β : Type}

@[ext]
theorem ext {x y : Act ε σ α} (h : ∀ s, x s = y s) : x = y := funext h

/-- Ends with a result and does nothing else. -/
protected def pure (a : α) : Act ε σ α := fun s => ⟨.done a, s, []⟩

/-- Runs the second computation on the result of the first, if there is one. -/
protected def bind (x : Act ε σ α) (f : α → Act ε σ β) : Act ε σ β := fun s =>
  match x s with
  | ⟨.done a, s', log⟩ => ⟨(f a s').ending, (f a s').state, log ++ (f a s').log⟩
  | ⟨.panicked text, s', log⟩ => ⟨.panicked text, s', log⟩
  | ⟨.defective e, s', log⟩ => ⟨.defective e, s', log⟩

instance : Monad (Act ε σ) where
  pure := Act.pure
  bind := Act.bind

@[simp]
theorem pure_apply (a : α) (s : σ) : (pure a : Act ε σ α) s = ⟨.done a, s, []⟩ := rfl

theorem bind_apply (x : Act ε σ α) (f : α → Act ε σ β) (s : σ) :
    (x >>= f) s =
      match x s with
      | ⟨.done a, s', log⟩ => ⟨(f a s').ending, (f a s').state, log ++ (f a s').log⟩
      | ⟨.panicked text, s', log⟩ => ⟨.panicked text, s', log⟩
      | ⟨.defective e, s', log⟩ => ⟨.defective e, s', log⟩ := rfl

/-- After a result the second computation runs from the state that the first left. -/
theorem bind_done {x : Act ε σ α} {s s' : σ} {a : α} {log : List (Entry ε)}
    (h : x s = ⟨.done a, s', log⟩) (f : α → Act ε σ β) :
    (x >>= f) s = ⟨(f a s').ending, (f a s').state, log ++ (f a s').log⟩ := by
  rw [bind_apply, h]

/-- After a panic nothing runs. -/
theorem bind_panicked {x : Act ε σ α} {s s' : σ} {text : String} {log : List (Entry ε)}
    (h : x s = ⟨.panicked text, s', log⟩) (f : α → Act ε σ β) :
    (x >>= f) s = ⟨.panicked text, s', log⟩ := by
  rw [bind_apply, h]

/-- After a defect nothing runs. -/
theorem bind_defective {x : Act ε σ α} {s s' : σ} {e : Error} {log : List (Entry ε)}
    (h : x s = ⟨.defective e, s', log⟩) (f : α → Act ε σ β) :
    (x >>= f) s = ⟨.defective e, s', log⟩ := by
  rw [bind_apply, h]

instance : LawfulMonad (Act ε σ) :=
  LawfulMonad.mk' (Act ε σ)
    (by
      intro α x
      funext s
      change (x >>= pure) s = x s
      rcases h : x s with ⟨_ | _ | _, s', log⟩ <;>
        simp [bind_apply, h])
    (by
      intro α β a f
      funext s
      simp [bind_apply])
    (by
      intro α β γ x f g
      funext s
      change (x >>= f >>= g) s = (x >>= fun a => f a >>= g) s
      rcases hx : x s with ⟨a | _ | _, s', log⟩
      · rcases hf : f a s' with ⟨b | _ | _, s'', log'⟩ <;>
          simp [bind_apply, hx, hf, List.append_assoc]
      · simp [bind_apply, hx]
      · simp [bind_apply, hx])

/-- Writes an entry. -/
def write (entry : ε) : Act ε σ Unit := fun s => ⟨.done (), s, [.wrote entry]⟩

/-- Writes a notice of the dispatcher. -/
def notice (n : Notice) : Act ε σ Unit := fun s => ⟨.done (), s, [.notice n]⟩

/-- Ends the run with a panic. -/
def panic (text : String) : Act ε σ α := fun s => ⟨.panicked text, s, []⟩

/-- Notes a defect and ends the run with it. -/
def defect (e : Error) : Act ε σ α := fun s => ⟨.defective e, s, [.notice (.defect e.message)]⟩

/-- Replaces the state and gives what the replacement yields beside it. -/
def update (f : σ → α × σ) : Act ε σ α := fun s => ⟨.done (f s).1, (f s).2, []⟩

@[simp]
theorem notice_bind_apply (n : Notice) (f : Unit → Act ε σ α) (s : σ) :
    (notice n >>= f) s = ⟨(f () s).ending, (f () s).state, .notice n :: (f () s).log⟩ := rfl

@[simp]
theorem panic_bind (text : String) (f : α → Act ε σ β) :
    (panic text >>= f : Act ε σ β) = panic text := rfl

@[simp]
theorem defect_bind (e : Error) (f : α → Act ε σ β) :
    (defect e >>= f : Act ε σ β) = defect e := rfl

end Act

end TagDispatch
