import TagDispatch.Derive.Lexeme

/-!
# Reading a stream of words

Lexemes that are written one after the other are a stream of words, in which nothing but the
brackets tells where a group ends. A stream is read by cutting it: at the first word of a kind that
stands outside of all groups, `cut`. From that come the pieces of a stream, which end with a
semicolon or a body in braces, and its entries, which end with commas.

Nothing here knows what the stream is about. The law of `cut` is `cut_append`: words that `reach`
the depth at which they began, with no word to stop at outside of their groups, are passed over as a
whole. So words of any kind may be spliced into a stream if their groups are closed.
-/

namespace TagDispatch.Derive

/-- Lexemes as they are written. -/
def written (ls : List Lexeme) : List String := ls.map Lexeme.spelling

namespace WordStream

/-! ## Groups -/

/-- Whether a word opens a group. -/
def opens (w : String) : Bool := w ∈ ["(", "[", "\x7b"]

/-- Whether a word closes a group. -/
def closes (w : String) : Bool := w ∈ [")", "]", "\x7d"]

/-- How many groups are open after a word. -/
def depthAfter (depth : Nat) (w : String) : Nat :=
  if opens w then depth + 1 else if closes w then depth - 1 else depth

/-- How many groups are open after words, unless a group is closed that was not opened, or a word to
stop at stands outside of all groups. -/
def reach (stop : String → Bool) : (depth : Nat) → List String → Option Nat
  | depth, [] => some depth
  | depth, w :: rest =>
    if depth = 0 && (stop w || closes w) then none else reach stop (depthAfter depth w) rest

/-- No group is closed that was not opened, and none is left open. -/
def Nested (ws : List String) : Prop := reach (fun _ => false) 0 ws = some 0

/-- The words are nested, and outside of their groups there is none to stop at. -/
def Clear (stop : String → Bool) (ws : List String) : Prop := reach stop 0 ws = some 0

instance (ws : List String) : Decidable (Nested ws) :=
  inferInstanceAs (Decidable (_ = _))

instance (stop : String → Bool) (ws : List String) : Decidable (Clear stop ws) :=
  inferInstanceAs (Decidable (_ = _))

/-- The word neither opens a group nor closes one. -/
def Plain (w : String) : Prop := opens w = false ∧ closes w = false

instance (w : String) : Decidable (Plain w) := inferInstanceAs (Decidable (_ ∧ _))

def brackets : List String := ["(", "[", "\x7b", ")", "]", "\x7d"]

theorem plain_of_notMem {w : String} (h : w ∉ brackets) : Plain w := by
  simp only [brackets, List.mem_cons, not_or] at h
  simp [Plain, opens, closes, h]

theorem closes_of_opens {w : String} (h : opens w = true) : closes w = false := by
  have hbrackets : ∀ w ∈ ["(", "[", "\x7b"], closes w = false := by decide
  exact hbrackets w (of_decide_eq_true h)

/-! ### Words one by one -/

section Reach

variable {stop : String → Bool} {depth : Nat} {w : String} {ws : List String}

@[simp]
theorem reach_nil : reach stop depth [] = some depth := rfl

@[simp]
theorem reach_zero_plain (h : Plain w) (hstop : stop w = false) :
    reach stop 0 (w :: ws) = reach stop 0 ws := by
  simp [reach, depthAfter, h.1, h.2, hstop]

@[simp]
theorem reach_succ_plain (h : Plain w) :
    reach stop (depth + 1) (w :: ws) = reach stop (depth + 1) ws := by
  simp [reach, depthAfter, h.1, h.2]

@[simp]
theorem reach_zero_opens (h : opens w = true) (hstop : stop w = false) :
    reach stop 0 (w :: ws) = reach stop 1 ws := by
  simp [reach, depthAfter, h, closes_of_opens h, hstop]

@[simp]
theorem reach_succ_opens (h : opens w = true) :
    reach stop (depth + 1) (w :: ws) = reach stop (depth + 2) ws := by
  simp [reach, depthAfter, h]

@[simp]
theorem reach_closes (h : closes w = true) :
    reach stop (depth + 1) (w :: ws) = reach stop depth ws := by
  cases hopens : opens w with
  | false => simp [reach, depthAfter, h, hopens]
  | true =>
    rw [closes_of_opens hopens] at h
    cases h

/-! ### Words as a whole -/

theorem reach_append (ws' : List String) :
    reach stop depth (ws ++ ws') = (reach stop depth ws).bind (reach stop · ws') := by
  induction ws generalizing depth with
  | nil => rfl
  | cons w rest ih =>
    rw [List.cons_append, reach, reach]
    split
    · rfl
    · exact ih

/-- Inside of a group there is nothing to stop at. -/
theorem reach_add {e : Nat} (h : reach (fun _ => false) depth ws = some e) (k : Nat) :
    reach stop (depth + k + 1) ws = some (e + k + 1) := by
  induction ws generalizing depth with
  | nil =>
    obtain rfl := Option.some.inj h
    rfl
  | cons w rest ih =>
    rw [reach] at h
    split at h
    · cases h
    · rename_i hopen
      have hdepth : depthAfter (depth + k + 1) w = depthAfter depth w + k + 1 := by
        simp only [Bool.false_or, Bool.and_eq_true, decide_eq_true_eq, not_and] at hopen
        unfold depthAfter
        split
        · omega
        · split
          next hcloses =>
            have hne : depth ≠ 0 := fun hzero => hopen hzero hcloses
            omega
          next => rfl
      simpa [reach, hdepth] using ih h

/-- Words that are clear are passed over. -/
theorem Clear.reach_append (h : Clear stop ws) (ws' : List String) :
    reach stop 0 (ws ++ ws') = reach stop 0 ws' := by
  rw [WordStream.reach_append, h]
  rfl

/-- Inside of a group any nested words are passed over. -/
theorem Nested.reach_append (h : Nested ws) (ws' : List String) :
    reach stop (depth + 1) (ws ++ ws') = reach stop (depth + 1) ws' := by
  have hreach : reach stop (depth + 1) ws = some (depth + 1) := by
    simpa using (reach_add h depth : reach stop (0 + depth + 1) ws = some (0 + depth + 1))
  rw [WordStream.reach_append, hreach]
  rfl

/-- Where there is nothing to stop at, nested words are passed over at any depth. -/
theorem Nested.reach_never (h : Nested ws) (depth : Nat) (ws' : List String) :
    reach (fun _ => false) depth (ws ++ ws') = reach (fun _ => false) depth ws' := by
  cases depth with
  | zero => exact Clear.reach_append h ws'
  | succ depth => exact h.reach_append ws'

/-- Clear words are nested. -/
theorem Clear.nested (h : Clear stop ws) : Nested ws := by
  suffices hall : ∀ depth, reach stop depth ws = some 0 →
      reach (fun _ => false) depth ws = some 0 from hall 0 h
  clear h
  induction ws with
  | nil => exact fun depth h => h
  | cons w rest ih =>
    intro depth h
    rw [reach] at h
    split at h
    · cases h
    · rename_i hpass
      have hgo : ¬(depth = 0 && (false || closes w)) = true := by
        simp only [Bool.and_eq_true, Bool.or_eq_true, not_and, Bool.false_or] at hpass ⊢
        exact fun hzero hcloses => hpass hzero (.inr hcloses)
      rw [reach, if_neg hgo]
      exact ih _ h

theorem Clear.append {ws' : List String} (h : Clear stop ws) (h' : Clear stop ws') :
    Clear stop (ws ++ ws') := by
  rw [Clear, h.reach_append, h']

theorem clear_of_forall (h : ∀ w ∈ ws, Plain w ∧ stop w = false) : Clear stop ws := by
  induction ws with
  | nil => rfl
  | cons w rest ih =>
    obtain ⟨⟨hplain, hstop⟩, hrest⟩ := List.forall_mem_cons.mp h
    rw [Clear, reach_zero_plain hplain hstop, ih hrest]

theorem Clear.flatMap {α : Type} {l : List α} {f : α → List String}
    (h : ∀ a ∈ l, Clear stop (f a)) : Clear stop (l.flatMap f) := by
  induction l with
  | nil => rfl
  | cons a rest ih =>
    rw [List.flatMap_cons]
    exact (h a List.mem_cons_self).append (ih fun b hb => h b (List.mem_cons_of_mem a hb))

end Reach

/-! ## Cutting -/

/-- Splits words before the first one to stop at outside of all groups. -/
def cut (stop : String → Bool) : (depth : Nat) → List String → List String × List String
  | _, [] => ([], [])
  | depth, w :: rest =>
    if depth = 0 && stop w then ([], w :: rest)
    else
      let parts := cut stop (depthAfter depth w) rest
      (w :: parts.1, parts.2)

section Cut

variable {stop : String → Bool} {depth : Nat} {ws : List String}

theorem cut_append_cut (stop : String → Bool) (depth : Nat) (ws : List String) :
    (cut stop depth ws).1 ++ (cut stop depth ws).2 = ws := by
  induction ws generalizing depth with
  | nil => rfl
  | cons w rest ih =>
    rw [cut]
    split
    · rfl
    · simp [ih]

theorem length_cut_snd_le (stop : String → Bool) (depth : Nat) (ws : List String) :
    (cut stop depth ws).2.length ≤ ws.length := by
  have hlength := congrArg List.length (cut_append_cut stop depth ws)
  rw [List.length_append] at hlength
  omega

/-- Words that a cut passes over stand before whatever it finds behind them. -/
theorem cut_append {e : Nat} (h : reach stop depth ws = some e) (rest : List String) :
    cut stop depth (ws ++ rest) = (ws ++ (cut stop e rest).1, (cut stop e rest).2) := by
  induction ws generalizing depth with
  | nil =>
    obtain rfl := Option.some.inj h
    rfl
  | cons w more ih =>
    rw [reach] at h
    split at h
    · cases h
    · rename_i hpass
      have hgo : ¬(depth = 0 && stop w) = true := by
        simp only [Bool.and_eq_true, Bool.or_eq_true, not_and] at hpass ⊢
        exact fun hzero hstop => hpass hzero (.inl hstop)
      rw [List.cons_append, cut, if_neg hgo, ih h]
      rfl

/-- Clear words end where the cut is made. -/
theorem Clear.cut_eq (h : Clear stop ws) {w : String} (hw : stop w = true) (rest : List String) :
    cut stop 0 (ws ++ w :: rest) = (ws, w :: rest) := by
  rw [cut_append h]
  simp [cut, hw]

theorem Clear.cut_self (h : Clear stop ws) : cut stop 0 ws = (ws, []) := by
  have hcut := cut_append h []
  simpa [cut] using hcut

/-- A group ends where the bracket that opened it is closed. -/
theorem Nested.clear_closes (h : Nested ws) : Clear closes ws := by
  suffices hsame : ∀ depth, reach closes depth ws = reach (fun _ => false) depth ws by
    rw [Clear, hsame]
    exact h
  clear h
  induction ws with
  | nil => exact fun _ => rfl
  | cons w rest ih =>
    intro depth
    rw [reach, reach, ih, Bool.or_self, Bool.false_or]

end Cut

/-! ## Pieces -/

/-- A piece of a stream: what stands before its body, and the body, which a piece that ends with a
semicolon has not. -/
structure Piece where
  header : List String
  body : List String

/-- Whether a word ends the header of a piece. -/
def endsHeader (w : String) : Bool := w ∈ [";", "\x7b"]

/-- The first piece of a stream and what follows it. -/
def firstPiece? (ws : List String) : Option (Piece × List String) :=
  let parts := cut endsHeader 0 ws
  match parts.2 with
  | [] => none
  | w :: rest =>
    if w = ";" then some (⟨parts.1, []⟩, rest)
    else
      let body := cut closes 0 rest
      some (⟨parts.1, body.1⟩, body.2.tail)

theorem length_lt_of_firstPiece? {ws rest : List String} {p : Piece}
    (h : firstPiece? ws = some (p, rest)) : rest.length < ws.length := by
  have hle := length_cut_snd_le endsHeader 0 ws
  simp only [firstPiece?] at h
  split at h
  · cases h
  next w more heq =>
    rw [heq, List.length_cons] at hle
    split at h
    · obtain ⟨-, rfl⟩ := Prod.mk.inj (Option.some.inj h)
      omega
    · obtain ⟨-, rfl⟩ := Prod.mk.inj (Option.some.inj h)
      have hbody := length_cut_snd_le closes 0 more
      rw [List.length_tail]
      omega

/-- The pieces of a stream, up to words that end no piece. -/
def pieces (ws : List String) : List Piece :=
  match _h : firstPiece? ws with
  | none => []
  | some (p, rest) => p :: pieces rest
termination_by ws.length
decreasing_by exact length_lt_of_firstPiece? _h

section Pieces

variable {header body rest : List String}

@[simp]
theorem pieces_nil : pieces [] = [] := by
  rw [pieces]
  rfl

theorem pieces_of_firstPiece? {ws : List String} {p : Piece}
    (h : firstPiece? ws = some (p, rest)) : pieces ws = p :: pieces rest := by
  rw [pieces]
  split
  next hnone =>
    rw [h] at hnone
    cases hnone
  next hsome =>
    rw [h] at hsome
    obtain ⟨rfl, rfl⟩ := Prod.mk.inj (Option.some.inj hsome)
    rfl

theorem pieces_semicolon (h : Clear endsHeader header) :
    pieces (header ++ ";" :: rest) = ⟨header, []⟩ :: pieces rest := by
  refine pieces_of_firstPiece? ?_
  simp [firstPiece?, h.cut_eq (w := ";") rfl]

theorem pieces_braces (h : Clear endsHeader header) (hbody : Nested body) :
    pieces (header ++ "\x7b" :: (body ++ "\x7d" :: rest)) = ⟨header, body⟩ :: pieces rest := by
  refine pieces_of_firstPiece? ?_
  simp [firstPiece?, h.cut_eq (w := "\x7b") rfl, hbody.clear_closes.cut_eq (w := "\x7d") rfl]

end Pieces

/-! ## Entries -/

/-- The entries of a group, with a comma between them or after each. -/
def entries (ws : List String) : List (List String) :=
  if _hne : ws = [] then []
  else
    let parts := cut (· = ",") 0 ws
    parts.1 :: entries parts.2.tail
termination_by ws.length
decreasing_by
  have hle := length_cut_snd_le (· = ",") 0 ws
  have hpos := List.length_pos_iff.mpr _hne
  rw [List.length_tail]
  omega

section Entries

variable {entry rest : List String}

@[simp]
theorem entries_nil : entries [] = [] := by
  rw [entries]
  rfl

theorem entries_comma (h : Clear (· = ",") entry) :
    entries (entry ++ "," :: rest) = entry :: entries rest := by
  rw [entries, dif_neg (by simp), h.cut_eq (by simp)]
  rfl

theorem entries_flatMap {α : Type} {l : List α} {f : α → List String}
    (h : ∀ a ∈ l, Clear (· = ",") (f a)) :
    entries (l.flatMap fun a => f a ++ [","]) = l.map f := by
  induction l with
  | nil => simp
  | cons a rest ih =>
    obtain ⟨ha, hrest⟩ := List.forall_mem_cons.mp h
    simp [entries_comma ha, ih hrest]

theorem entries_last (h : Clear (· = ",") entry) (hne : entry ≠ []) : entries entry = [entry] := by
  rw [entries, dif_neg hne, h.cut_self]
  simp

end Entries

end WordStream

end TagDispatch.Derive
