import TagDispatch.Act

/-!
# Messages of errors

A message quotes every text of its error between two marks. Where no text contains the mark, the
marks cut the message back into the wording of its kind and the texts that it quotes, whatever else
the texts contain, and the wording tells the kinds apart. So two errors with one message are one
error, and whoever catches a defect as a text knows which defect it was.
-/

namespace TagDispatch

variable {ε σ α β : Type}

namespace Error

/-- The mark before and after every text that a message quotes. -/
def quoteMark : Char := '\x60'

/-- None of the texts of the error contains the mark. -/
def Plain (e : Error) : Prop := ∀ field ∈ e.fields, quoteMark ∉ field.2.toList

instance (e : Error) : Decidable e.Plain :=
  inferInstanceAs (Decidable (∀ field ∈ e.fields, quoteMark ∉ field.2.toList))

/-- What stands between the marks of the message: wording and texts by turns. -/
def parts : Error → List String
  | shapeMismatch tag expected found =>
    ["payload for tag ", tag, " must be ", expected, ", found ", found, ""]
  | unknownTag registry tag => ["tag ", tag, " is not registered in ", registry, ""]
  | duplicateTag registry tag => ["tag ", tag, " is declared more than once in ", registry, ""]
  | handlerKey tag => ["no handler for tag ", tag, " and no ELSE fallback"]
  | branchKeyMismatch expected found =>
    ["branch for tag ", expected, " invoked on a value tagged ", found, ""]

/-- The message is its parts with a mark between each two. -/
theorem toList_message (e : Error) :
    e.message.toList = [quoteMark].intercalate (e.parts.map String.toList) := by
  unfold message
  cases e <;>
    simp only [parts, List.map_cons, List.map_nil, List.intercalate_cons_cons,
      List.intercalate_singleton, String.toList_append] <;>
    simp [quoteMark]

/-- The wording tells the kinds apart, and the texts the errors of a kind. -/
theorem parts_inj {a b : Error} : a.parts = b.parts ↔ a = b := by
  cases a <;> cases b <;> simp [parts, and_comm]

/-- No part contains the mark if no text does: the wordings are free of it. -/
theorem Plain.notMem_parts {e : Error} (h : e.Plain) :
    ∀ part ∈ e.parts, quoteMark ∉ part.toList := by
  cases e with
  | shapeMismatch tag expected found =>
    simp only [Plain, fields, List.forall_mem_cons] at h
    obtain ⟨htag, hexpected, hfound, -⟩ := h
    simp only [parts, List.forall_mem_cons]
    exact ⟨by decide, htag, by decide, hexpected, by decide, hfound, by decide, by simp⟩
  | unknownTag registry tag | duplicateTag registry tag =>
    simp only [Plain, fields, List.forall_mem_cons] at h
    obtain ⟨hregistry, htag, -⟩ := h
    simp only [parts, List.forall_mem_cons]
    exact ⟨by decide, htag, by decide, hregistry, by decide, by simp⟩
  | handlerKey tag =>
    simp only [Plain, fields, List.forall_mem_cons] at h
    obtain ⟨htag, -⟩ := h
    simp only [parts, List.forall_mem_cons]
    exact ⟨by decide, htag, by decide, by simp⟩
  | branchKeyMismatch expected found =>
    simp only [Plain, fields, List.forall_mem_cons] at h
    obtain ⟨hexpected, hfound, -⟩ := h
    simp only [parts, List.forall_mem_cons]
    exact ⟨by decide, hexpected, by decide, hfound, by decide, by simp⟩

/-- The marks cut the message into its parts. -/
theorem Plain.splitOn_message {e : Error} (h : e.Plain) :
    e.message.toList.splitOn quoteMark = e.parts.map String.toList := by
  have hne : e.parts.map String.toList ≠ [] := by cases e <;> simp [parts]
  have hparts : ∀ part ∈ e.parts.map String.toList, quoteMark ∉ part :=
    List.forall_mem_map.mpr h.notMem_parts
  rw [toList_message, List.splitOn_intercalate quoteMark hparts hne]

/-- Errors with one message are one error. -/
theorem Plain.eq_of_message_eq {a b : Error} (ha : a.Plain) (hb : b.Plain)
    (h : a.message = b.message) : a = b := by
  have hparts : a.parts.map String.toList = b.parts.map String.toList := by
    rw [← ha.splitOn_message, ← hb.splitOn_message, h]
  exact parts_inj.mp (List.map_inj_right (fun _ _ => String.toList_inj.mp) |>.mp hparts)

end Error

/-! ## Caught defects -/

/-- **Messages identify errors.** Errors whose texts are free of the mark have one message exactly
if they are one error; so runs that end in such defects end in the same one if their panics have one
text. -/
theorem messages_identify_errors (a b : Error) (ha : a.Plain) (hb : b.Plain) :
    (a.message = b.message ↔ a = b) ∧
      ∀ (x : Act ε σ α) (y : Act ε σ β) (s t : σ), (x s).ending = .defective a →
        (y t).ending = .defective b →
          (x s).ending.panicText? = (y t).ending.panicText? → a = b := by
  refine ⟨⟨ha.eq_of_message_eq hb, congrArg Error.message⟩, fun x y s t hx hy htext => ?_⟩
  rw [hx, hy] at htext
  exact ha.eq_of_message_eq hb (Option.some.inj htext)

/-- A tag with a piece of another message in it does not mislead, as long as it has no mark. -/
theorem messages_identify_errors_pieces :
    (Error.unknownTag "Event" "KEY is declared more than once in Event").Plain ∧
      (Error.duplicateTag "Event" "KEY").Plain ∧
      (Error.unknownTag "Event" "KEY is declared more than once in Event").message ≠
        (Error.duplicateTag "Event" "KEY").message ∧
      (Error.handlerKey "Dot").Plain ∧ (Error.branchKeyMismatch "Dot" "Circle").Plain ∧
      ((Act.defect (.handlerKey "Dot") : Act String Nat Unit) 0).ending.panicText? ≠
        ((Act.defect (.branchKeyMismatch "Dot" "Circle") : Act String Nat Unit)
          0).ending.panicText? := by
  have hunknown : (Error.unknownTag "Event" "KEY is declared more than once in Event").Plain := by
    decide
  have hduplicate : (Error.duplicateTag "Event" "KEY").Plain := by decide
  have hhandler : (Error.handlerKey "Dot").Plain := by decide
  have hbranch : (Error.branchKeyMismatch "Dot" "Circle").Plain := by decide
  obtain ⟨hmessage, -⟩ :=
    messages_identify_errors (ε := String) (σ := Nat) (α := Unit) (β := Unit) _ _ hunknown
      hduplicate
  obtain ⟨-, hcaught⟩ :=
    messages_identify_errors (ε := String) (σ := Nat) (α := Unit) (β := Unit) _ _ hhandler hbranch
  refine ⟨hunknown, hduplicate, ?_, hhandler, hbranch, fun htext => ?_⟩
  · rw [Ne, hmessage]
    exact Error.noConfusion
  · exact Error.noConfusion (hcaught _ _ 0 0 rfl rfl htext)

/-- With marks in their texts two errors can have one message. -/
example :
    (Error.unknownTag "c" "a\x60 is not registered in \x60b").message =
      (Error.unknownTag "b\x60 is not registered in \x60c" "a").message := by
  decide

end TagDispatch
