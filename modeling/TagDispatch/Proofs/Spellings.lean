import TagDispatch.Proofs.Names
import TagDispatch.Proofs.Streams

/-!
# Spellings that name something

A legal identifier is one that is read back from its spelling: it has the form of an identifier, it
is written raw if it is reserved, and it is not one of the few words that cannot be raw. So a
spelling tells what it names, and no legal identifier is spelled like a mark or a keyword.
-/

namespace TagDispatch

open Derive

namespace Ident

/-- The identifier is what its spelling names. -/
def Legal (i : Ident) : Prop := nameOfSpelling? i.spelling = some i

instance (i : Ident) : Decidable i.Legal := inferInstanceAs (Decidable (_ = _))

variable {i j : Ident}

/-- A spelling is read as the identifier that it was written for. -/
theorem identOfSpelling_spelling (hi : '#' ∉ i.text.toList) : identOfSpelling i.spelling = i := by
  obtain ⟨text, raw⟩ := i
  cases raw with
  | true =>
    simp [spelling, identOfSpelling]
  | false =>
    simp only [spelling, Bool.false_eq_true, if_false, identOfSpelling]
    split
    next rest heq => exact absurd (by simp [heq]) hi
    next => rfl

/-- What a spelling names is the identifier that it was written for, if that is legal. -/
theorem nameOfSpelling?_spelling (hi : '#' ∉ i.text.toList) :
    nameOfSpelling? i.spelling = some j ↔ i = j ∧ i.Legal := by
  unfold Legal nameOfSpelling?
  rw [identOfSpelling_spelling hi]
  dsimp only
  split_ifs <;> simp

theorem legal_iff :
    i.Legal ↔ isIdentText i.text.toList ∧ ¬isReserved i ∧ ¬(i.raw ∧ i.text ∈ neverRaw) := by
  constructor
  · intro h
    have hlegal := h
    obtain ⟨-, hi⟩ := nameOfSpelling?_eq_some h
    simp only [Legal, nameOfSpelling?, identOfSpelling_spelling (sharp_notMem hi)] at hlegal
    simpa [hi] using hlegal
  · rintro ⟨hi, hreserved, hraw⟩
    simp only [Legal, nameOfSpelling?, identOfSpelling_spelling (sharp_notMem hi)]
    simpa [hi] using And.intro (by simpa using hreserved) (by simpa using hraw)

namespace Legal

variable (h : i.Legal)

include h

theorem isIdentText : Derive.isIdentText i.text.toList := (legal_iff.mp h).1

theorem identOfSpelling_eq : identOfSpelling i.spelling = i :=
  identOfSpelling_spelling (sharp_notMem h.isIdentText)

/-- What names nothing is the spelling of no legal identifier. -/
theorem spelling_ne {w : String} (hw : nameOfSpelling? w = none) : i.spelling ≠ w := by
  rintro rfl
  rw [h] at hw
  cases hw

theorem plain : WordStream.Plain i.spelling := by
  have hnone : ∀ w ∈ WordStream.brackets, nameOfSpelling? w = none := by decide
  exact WordStream.plain_of_notMem fun hmem => h.spelling_ne (hnone _ hmem) rfl

theorem not_endsHeader : WordStream.endsHeader i.spelling = false := by
  have hne : ∀ w ∈ [";", "\x7b"], nameOfSpelling? w = none := by decide
  simp only [List.forall_mem_cons] at hne
  simp [WordStream.endsHeader, h.spelling_ne, hne]

end Legal

/-- Whatever a spelling names is legal. -/
theorem legal_of_nameOfSpelling? {w : String} (h : nameOfSpelling? w = some i) : i.Legal := by
  rw [Legal, (nameOfSpelling?_eq_some h).1, h]

end Ident

end TagDispatch
