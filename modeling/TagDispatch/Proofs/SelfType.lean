import TagDispatch.Derive.Lexeme
import TagDispatch.Proofs.Emission

/-!
# Payload types that mention `Self`

The type of a field is copied, word by word, into the implementations for the marker of its variant.
A type means the same there unless it mentions `Self`, which is the enum where the field is declared
and the marker where the type is copied to. So the implementations for a recursive enum are about
other payloads than the enum has.
-/

namespace TagDispatch.Derive

/-! ## What `Self` stands for -/

/-- Lexemes in an implementation for a target, with the target written out for `Self`. -/
def resolveSelf (target ls : List Lexeme) : List Lexeme :=
  ls.flatMap fun l => if l = .word "Self" then target else [l]

/-- Each `Self` is replaced by the whole target. -/
theorem length_resolveSelf (target ls : List Lexeme) :
    (resolveSelf target ls).length + ls.count (.word "Self") =
      ls.length + ls.count (.word "Self") * target.length := by
  induction ls with
  | nil => simp [resolveSelf]
  | cons l rest ih =>
    rw [resolveSelf, List.flatMap_cons, ← resolveSelf, List.length_append]
    by_cases hl : l = .word "Self"
    · rw [if_pos hl, hl, List.count_cons_self, List.length_cons, Nat.succ_mul]
      omega
    · rw [if_neg hl, List.count_cons_of_ne hl, List.length_singleton, List.length_cons]
      omega

/-- Targets of different lengths tell apart whether `Self` is mentioned. -/
theorem resolveSelf_eq_iff {target target' ls : List Lexeme} (h : target.length ≠ target'.length) :
    resolveSelf target ls = resolveSelf target' ls ↔ .word "Self" ∉ ls := by
  constructor
  · intro heq
    have hlength := length_resolveSelf target ls
    rw [heq, length_resolveSelf target' ls] at hlength
    have hcount : ls.count (.word "Self") = 0 := by
      by_contra hne
      have hmul := Nat.add_left_cancel hlength
      exact h (Nat.eq_of_mul_eq_mul_left (Nat.pos_of_ne_zero hne) hmul).symm
    exact List.count_eq_zero.mp hcount
  · intro hself
    refine List.flatMap_congr fun l hl => ?_
    have hne : l ≠ .word "Self" := fun heq => hself (heq ▸ hl)
    rw [if_neg hne, if_neg hne]

/-! ## Where payload types are written -/

/-- The payload type that a function gets or gives: `peek` by reference, `take` as its result, and
`inject` as its parameter. -/
def Function.payloadTypes (f : Function) : List TypeExpr :=
  match f.name, f.params, f.result with
  | "peek", _, .option (.ref _ t) => [t]
  | "take", _, .result t _ => [t]
  | "inject", [.named _ t], _ => [t]
  | _, _, _ => []

/-- The payload types that an implementation writes. -/
def Implementation.payloadTypes (i : Implementation) : List TypeExpr :=
  i.members.flatMap fun
    | .type "Payload" t => [t]
    | .function f => f.payloadTypes
    | _ => []

/-- The implementation of a trait of the library, with the enum as its argument, for a marker. -/
structure Implementation.Implements (i : Implementation) (trait : String) (enum marker : Path) :
    Prop where
  trait : i.trait = libraryPath trait
  argument : i.argument = some enum
  target : i.target = marker

namespace Declaration

variable {item : Item} {d : Declaration} {w : Variant Words} {ws : Words}

theorem patternImpl_payloadTypes (hw : w.field = some ws) :
    (d.patternImpl w).payloadTypes = [.words ws, .words ws, .words ws] := by
  simp [Implementation.payloadTypes, patternImpl, Function.payloadTypes, payloadType, hw]

theorem variantImpl_payloadTypes (hw : w.field = some ws) :
    (d.variantImpl w).payloadTypes = [.words ws] := by
  simp [Implementation.payloadTypes, variantImpl, Function.payloadTypes, hw]

/-- In the implementations for a marker a type means what it means in the enum exactly if it does
not mention `Self`. -/
theorem resolveSelf_markerPath_iff (i : Ident) :
    resolveSelf (d.markerPath i).lexemes (TypeExpr.words ws).lexemes =
      resolveSelf d.self.lexemes (ofWords ws) ↔ "Self" ∉ ws := by
  have hlength : (d.markerPath i).lexemes.length ≠ d.self.lexemes.length := by
    show 3 ≠ 1
    decide
  have hmem : Lexeme.word "Self" ∈ ofWords ws ↔ "Self" ∈ ws := by simp [ofWords]
  rw [TypeExpr.lexemes, resolveSelf_eq_iff hlength, hmem]

/-- **Payload types and `Self`.** For every variant of an accepted item that has a field, the traits
`Pattern` and `Variant` are implemented for its marker, and the type of the field is written in the
four places for the payload. There it means what it means in the enum exactly if it does not mention
`Self`. -/
theorem payload_types_kept_iff (hd : Declaration.ofItem item = .ok d) {v : ItemVariant}
    (hv : v ∈ item.variants) (hws : v.fields = .unnamed [ws]) :
    ∃ pattern ∈ d.expand.implementations, ∃ variant ∈ d.expand.implementations,
      pattern.Implements "Pattern" ⟨[item.ident], false⟩ (d.markerPath v.ident) ∧
      variant.Implements "Variant" ⟨[item.ident], false⟩ (d.markerPath v.ident) ∧
      pattern.payloadTypes ++ variant.payloadTypes = List.replicate 4 (.words ws) ∧
      ((∀ t ∈ pattern.payloadTypes ++ variant.payloadTypes,
        resolveSelf (d.markerPath v.ident).lexemes t.lexemes =
          resolveSelf (Path.lexemes ⟨[item.ident], false⟩) (ofWords ws)) ↔ "Self" ∉ ws) := by
  obtain ⟨-, -, -, hvariants, -, hident⟩ := ofItem_eq_ok_iff.mp hd
  rw [hvariants] at hv
  obtain ⟨w, hw, rfl⟩ := List.mem_map.mp hv
  have hfield : w.field = some ws := by
    simp only [itemVariant] at hws
    cases hfield : w.field <;> simp_all
  have himpl : ∀ i ∈ [d.patternImpl w, d.variantImpl w], i ∈ d.expand.implementations :=
    fun i hi => List.mem_append_right _ (List.mem_flatMap.mpr ⟨w, hw, hi⟩)
  have htypes : (d.patternImpl w).payloadTypes ++ (d.variantImpl w).payloadTypes =
      List.replicate 4 (.words ws) := by
    rw [patternImpl_payloadTypes hfield, variantImpl_payloadTypes hfield]
    rfl
  have hself : d.self = ⟨[item.ident], false⟩ := by rw [self, hident]
  refine ⟨d.patternImpl w, himpl _ (by simp), d.variantImpl w, himpl _ (by simp),
    ⟨rfl, congrArg some hself, rfl⟩, ⟨rfl, congrArg some hself, rfl⟩, htypes, ?_⟩
  rw [htypes, ← hself, ← resolveSelf_markerPath_iff (d := d) w.ident]
  simp [itemVariant]

end Declaration

/-! ## A recursive enum -/

namespace Recursive

/-- The type of the second variant. -/
def boxedSelf : Words := ["Box", "<", "Self", ">"]

/-- Literals and their negations. -/
def item : Item where
  kind := .enum
  ident := ⟨"Expr", false⟩
  visibility := []
  generic := false
  attributes := []
  variants := [⟨⟨"Lit", false⟩, .unnamed [["i32"]]⟩, ⟨⟨"Neg", false⟩, .unnamed [boxedSelf]⟩]

def declaration : Declaration where
  visibility := []
  module := ⟨"expr", false⟩
  registry := ⟨⟨"Expr", false⟩,
    [⟨⟨"Lit", false⟩, some ["i32"]⟩, ⟨⟨"Neg", false⟩, some boxedSelf⟩]⟩

theorem ofItem_item : Declaration.ofItem item = .ok declaration := by decide +kernel

end Recursive

theorem boxed_self_changes :
    ¬∀ item d, Declaration.ofItem item = .ok d →
      ∀ v ∈ item.variants, ∀ ws, v.fields = .unnamed [ws] →
        ∀ i ∈ d.expand.implementations, i.target = d.markerPath v.ident →
          ∀ t ∈ i.payloadTypes,
            resolveSelf i.target.lexemes t.lexemes =
              resolveSelf (Path.lexemes ⟨[item.ident], false⟩) (ofWords ws) := by
  intro h
  have hneg := h Recursive.item Recursive.declaration Recursive.ofItem_item
    ⟨⟨"Neg", false⟩, .unnamed [Recursive.boxedSelf]⟩ (by decide) Recursive.boxedSelf rfl
    (Recursive.declaration.variantImpl ⟨⟨"Neg", false⟩, some Recursive.boxedSelf⟩) (by decide) rfl
    (.words Recursive.boxedSelf) (by decide)
  revert hneg
  decide

theorem literal_payload_kept :
    ∃ pattern ∈ Recursive.declaration.expand.implementations,
      ∃ variant ∈ Recursive.declaration.expand.implementations,
        pattern.payloadTypes ++ variant.payloadTypes = List.replicate 4 (.words ["i32"]) ∧
        ∀ t ∈ pattern.payloadTypes ++ variant.payloadTypes,
          resolveSelf (Recursive.declaration.markerPath ⟨"Lit", false⟩).lexemes t.lexemes =
            resolveSelf (Path.lexemes ⟨[⟨"Expr", false⟩], false⟩) (ofWords ["i32"]) := by
  obtain ⟨pattern, hpattern, variant, hvariant, -, -, htypes, hkept⟩ :=
    Declaration.payload_types_kept_iff Recursive.ofItem_item
      (v := ⟨⟨"Lit", false⟩, .unnamed [["i32"]]⟩) (by decide) rfl
  exact ⟨pattern, hpattern, variant, hvariant, htypes, hkept.mpr (by decide)⟩

end TagDispatch.Derive
