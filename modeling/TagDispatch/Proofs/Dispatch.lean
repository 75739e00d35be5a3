import TagDispatch.Proofs.Calls
import TagDispatch.Script.Samples

/-!
# What an exhaustive table does

A dispatch is one notice and one piece of code: the last call for the tag of the value on its
payload, or else the last fallback. Where there is neither it is a defect, and no code runs at all.

The three cases are `dispatch_of_lastCall`, `dispatch_of_fallback` and `dispatch_of_nothing`. From
them come the dispatch law, `Table.dispatch_last_registration`, and `Table.dispatch_avoids`, which
says when a table raises a defect that is not one of the caller's code.
-/

namespace TagDispatch

variable {ε σ V T P R : Type} [Tagged V T] [DecidableEq T] [Tag T]

namespace Table

variable {calls : List (Registration ε σ V T R)} {call : Registration ε σ V T R} {v : V}
variable {f : Act ε σ R}

/-! ## The three cases -/

/-- The last call for the tag of the value answers. -/
theorem dispatch_of_lastCall (h : lastCall Registration.tag? calls (tag v) = some call) :
    (ofRegistrations calls).dispatch v =
      Act.notice (.dispatch (Tag.name (tag v))) >>= fun _ => call.answer v := by
  rw [dispatch, find?_ofRegistrations, h]
  rfl

/-- Without a call for the tag the last fallback runs. -/
theorem dispatch_of_fallback (h : lastCall Registration.tag? calls (tag v) = none)
    (hf : calls.findSomeRev? Registration.fallback? = some f) :
    (ofRegistrations calls).dispatch v =
      Act.notice (.fallback (Tag.name (tag v))) >>= fun _ => f := by
  rw [dispatch, find?_ofRegistrations, h, fallback_ofRegistrations, hf]
  rfl

/-- Without a call for the tag and without a fallback the value is a defect. -/
theorem dispatch_of_nothing (h : lastCall Registration.tag? calls (tag v) = none)
    (hf : calls.findSomeRev? Registration.fallback? = none) :
    (ofRegistrations calls).dispatch v = .defect (.handlerKey (Tag.name (tag v))) := by
  rw [dispatch, find?_ofRegistrations, h, fallback_ofRegistrations, hf]
  rfl

/-- Tables with one last call for the tag of a value and one fallback dispatch it alike. -/
theorem dispatch_congr {calls' : List (Registration ε σ V T R)}
    (hlast : lastCall Registration.tag? calls (tag v) = lastCall Registration.tag? calls' (tag v))
    (hf : calls.findSomeRev? Registration.fallback? = calls'.findSomeRev? Registration.fallback?) :
    (ofRegistrations calls).dispatch v = (ofRegistrations calls').dispatch v := by
  rw [dispatch, dispatch, find?_ofRegistrations, find?_ofRegistrations, hlast,
    fallback_ofRegistrations, fallback_ofRegistrations, hf]

/-! ## Defects -/

/-- A table raises a defect only if the last call for the tag does, or the code of its calls, or if
it is the defect of a tag that nothing handles. -/
theorem dispatch_avoids {e : Error} (hcode : ∀ call ∈ calls, call.CodeIn fun _ x => x.Avoids e)
    (hanswer : ∀ call, lastCall Registration.tag? calls (tag v) = some call →
      (call.answer v).Avoids e)
    (hnothing : lastCall Registration.tag? calls (tag v) = none →
      calls.findSomeRev? Registration.fallback? = none → e ≠ .handlerKey (Tag.name (tag v))) :
    ((ofRegistrations calls).dispatch v).Avoids e := by
  intro s
  cases hlast : lastCall Registration.tag? calls (tag v) with
  | some call =>
    rw [dispatch_of_lastCall hlast, Act.notice_bind_apply]
    exact hanswer call hlast s
  | none =>
    cases hf : calls.findSomeRev? Registration.fallback? with
    | some f =>
      rw [dispatch_of_fallback hlast hf, Act.notice_bind_apply]
      exact Registration.codeIn_of_lastFallback hf hcode s
    | none =>
      rw [dispatch_of_nothing hlast hf]
      intro h
      exact hnothing hlast hf (Ending.defective.inj h).symm

/-- If the patterns take the value where it carries their tags, a table raises a defect only if the
code of its calls does, or if it is the defect of a tag that nothing handles. -/
theorem dispatch_avoids_of_takesAt {e : Error}
    (htakes : ∀ call ∈ calls, call.PatternIn fun _ p => p.TakesAt v)
    (hcode : ∀ call ∈ calls, call.CodeIn fun _ x => x.Avoids e)
    (hnothing : lastCall Registration.tag? calls (tag v) = none →
      calls.findSomeRev? Registration.fallback? = none → e ≠ .handlerKey (Tag.name (tag v))) :
    ((ofRegistrations calls).dispatch v).Avoids e := by
  refine dispatch_avoids hcode (fun call hlast => ?_) hnothing
  have hmem := mem_of_lastCall hlast
  exact Registration.answer_of_takesAt (Act.avoids_compositional e) (tag?_of_lastCall hlast)
    (htakes call hmem) (hcode call hmem)

/-! ## The dispatch law -/

/-- **Dispatch law.** Let every call's pattern take the value if the value carries its tag. Then a
dispatch runs the last call for the tag on the payload, else the last fallback, else nothing, with
one notice ahead of it; and if the code of the calls is foreign, it is the only notice. -/
theorem dispatch_last_registration (calls : List (Registration ε σ V T R)) (v : V)
    (htakes : ∀ call ∈ calls, call.PatternIn fun _ p => p.TakesAt v)
    (hforeign : ∀ call ∈ calls, call.CodeIn fun _ x => x.Foreign) :
    (∀ call, lastCall Registration.tag? calls (tag v) = some call →
      ∃ body, call.Executes v body ∧ ∀ s, (ofRegistrations calls).dispatch v s =
        ⟨(body s).ending, (body s).state,
          .notice (.dispatch (Tag.name (tag v))) :: (body s).log⟩) ∧
    (lastCall Registration.tag? calls (tag v) = none →
      (∀ f, calls.findSomeRev? Registration.fallback? = some f →
        ∀ s, (ofRegistrations calls).dispatch v s =
          ⟨(f s).ending, (f s).state, .notice (.fallback (Tag.name (tag v))) :: (f s).log⟩) ∧
      (calls.findSomeRev? Registration.fallback? = none →
        ∀ s, (ofRegistrations calls).dispatch v s =
          ⟨.defective (.handlerKey (Tag.name (tag v))), s,
            [.notice (.defect (Error.handlerKey (Tag.name (tag v))).message)]⟩)) ∧
    ∀ s n, Entry.notice n ∉ ((ofRegistrations calls).dispatch v s).log.tail := by
  refine ⟨fun call hlast => ?_, fun hlast => ⟨fun f hf s => ?_, fun hf s => ?_⟩, fun s n => ?_⟩
  · have htag := tag?_of_lastCall hlast
    obtain ⟨body, hbody⟩ := Registration.exists_executes htag (htakes call (mem_of_lastCall hlast))
    refine ⟨body, hbody, fun s => ?_⟩
    rw [dispatch_of_lastCall hlast, Registration.answer_of_executes hbody, Act.notice_bind_apply]
  · rw [dispatch_of_fallback hlast hf, Act.notice_bind_apply]
  · rw [dispatch_of_nothing hlast hf]
    rfl
  · -- the tail is what the answer or the fallback writes, and both are foreign
    cases hlast : lastCall Registration.tag? calls (tag v) with
    | some call =>
      have hmem := mem_of_lastCall hlast
      have hanswer : (call.answer v).Foreign :=
        Registration.answer_of_takesAt Act.foreign_compositional (tag?_of_lastCall hlast)
          (htakes call hmem) (hforeign call hmem)
      rw [dispatch_of_lastCall hlast, Act.notice_bind_apply]
      exact hanswer.notice_notMem s n
    | none =>
      cases hf : calls.findSomeRev? Registration.fallback? with
      | some f =>
        have hfallback : f.Foreign := Registration.codeIn_of_lastFallback hf hforeign
        rw [dispatch_of_fallback hlast hf, Act.notice_bind_apply]
        exact hfallback.notice_notMem s n
      | none =>
        rw [dispatch_of_nothing hlast hf]
        exact List.not_mem_nil

end Table

/-! ## Circles

Calls over a sample registry in which a chain replaces a handler and a fallback a fallback.
-/

namespace Circles

open Registry Script

def circle : Sample.shape.Tag := ⟨⟨1, by decide⟩⟩

def dot : Sample.shape.Tag := ⟨⟨0, by decide⟩⟩

/-- Only the chain is executed on a circle; its guard counts how often it is asked. -/
def calls :
    List (Registration String Nat (Sample.shape.Value PayloadType.Val) Sample.shape.Tag Int) :=
  [.handle (circle.pattern _) fun _ => Act.panic "replaced",
    .orElse (Act.panic "replaced"),
    .handle (dot.pattern _) fun _ => Act.panic "dot",
    .chain
      { pattern := circle.pattern _
        cases := [{
          guard := fun _ => Act.update fun asked => (asked = 0, asked + 1)
          handler := fun (radius : { n : Int // IntKind.i64.holds n }) => do
            Act.write "circle"
            pure (2 * radius.val) }] }
      fun _ => pure 0,
    .orElse (pure 1)]

/-- A circle of radius seven. -/
def seven : Sample.shape.Value PayloadType.Val where
  tag := circle
  payload := (⟨7, by decide⟩ : { n : Int // IntKind.i64.holds n })

theorem calls_take (v : Sample.shape.Value PayloadType.Val) :
    ∀ call ∈ calls, call.PatternIn fun _ p => p.TakesAt v := by
  simp only [calls, List.forall_mem_cons, Registration.PatternIn]
  exact ⟨(pattern_lawful circle v).takesAt, trivial, (pattern_lawful dot v).takesAt,
    (pattern_lawful circle v).takesAt, trivial, by simp⟩

theorem calls_foreign : ∀ call ∈ calls, call.CodeIn fun _ x => x.Foreign := by
  have hpure : ∀ n : Int, (pure n : Act String Nat Int).Foreign :=
    Act.foreign_compositional.ofResult
  simp only [calls, List.forall_mem_cons, Registration.CodeIn]
  refine ⟨fun _ => Act.foreign_panic _, Act.foreign_panic _, fun _ => Act.foreign_panic _,
    ⟨⟨⟨fun _ => Act.foreign_update _, fun x => ?_⟩, by simp⟩, fun _ => hpure 0⟩, hpure 1, by simp⟩
  exact Act.foreign_compositional.ofBind (Act.foreign_write _) fun _ => hpure _

theorem dispatch_calls_seven :
    (∀ call ∈ calls, call.PatternIn fun _ p => p.TakesAt seven) ∧
    (∀ call ∈ calls, call.CodeIn fun _ x => x.Foreign) ∧
    (Table.ofRegistrations calls).dispatch seven 0 =
      ⟨.done 14, 1, [.notice (.dispatch "Circle"), .wrote "circle"]⟩ := by
  refine ⟨calls_take seven, calls_foreign, ?_⟩
  obtain ⟨body, hbody, hrun⟩ :=
    (Table.dispatch_last_registration calls seven (calls_take seven) calls_foreign).1 _ rfl
  cases hbody with
  | chain h =>
    cases h
    rw [hrun]
    rfl

end Circles

end TagDispatch
