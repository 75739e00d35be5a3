/-!
# Rules of literals

A literal is a list of words: marks, and expressions between the marks. A rule says which words a
literal may consist of, and under which names its expressions are kept.

Words are read from the first to the last, and reading never goes back: every way through the rule
that is still open is followed beside the others. A word that passes on no way ends the reading. An
expression is read once, so it has to pass on one way alone, and so has the end of the words.
-/

namespace TagDispatch

universe u

/-- A word of a literal. An expression is one word, however long it is; a stray word is no mark and
begins no expression. -/
inductive Word (M : Type) (E : Type u) where
  | mark (m : M)
  | expr (e : E)
  | stray
deriving DecidableEq

/-- A part of a rule. -/
inductive RulePart (M N : Type) where
  | mark (m : M)
  /-- An expression, to be kept under the name. -/
  | hole (name : N)
  /-- Parts that may be left out. -/
  | perhaps (parts : List (RulePart M N))
  /-- Parts any number of times, each time behind the separator. -/
  | again (separator : M) (parts : List (RulePart M N))

/-- A rule is a list of parts. -/
abbrev Rule (M N : Type) : Type := List (RulePart M N)

/-- A word that may come next in a rule, with the rule for the words behind it, or the end. -/
inductive Ahead (M N : Type) where
  | done
  | mark (m : M) (rest : Rule M N)
  | hole (name : N) (rest : Rule M N)

/-- Why words cannot be read by a rule. -/
inductive Misreading where
  /-- A word, or the end of the words, passes on no way. -/
  | unexpected
  /-- An expression, or the end of the words, passes on several ways. -/
  | ambiguous
deriving DecidableEq

namespace Rule

variable {M N : Type} {E : Type u}

/-- Parts once or more, with the separator between. -/
def onceOrMore (separator : M) (parts : Rule M N) : Rule M N := parts ++ [.again separator parts]

theorem sizeOf_append (parts rest : Rule M N) :
    sizeOf (parts ++ rest) + 1 = sizeOf parts + sizeOf rest := by
  induction parts with
  | nil => simp [Nat.add_comm]
  | cons part parts ih => simp only [List.cons_append, List.cons.sizeOf_spec]; omega

/-- All that may come next. -/
def ahead : Rule M N → List (Ahead M N)
  | [] => [.done]
  | .mark m :: rest => [.mark m rest]
  | .hole name :: rest => [.hole name rest]
  | .perhaps parts :: rest => ahead rest ++ ahead (parts ++ rest)
  | .again separator parts :: rest =>
    ahead rest ++ [.mark separator (parts ++ .again separator parts :: rest)]
termination_by rule => sizeOf rule
decreasing_by
  · simp only [List.cons.sizeOf_spec, RulePart.perhaps.sizeOf_spec]; omega
  · have := sizeOf_append parts rest
    simp only [List.cons.sizeOf_spec, RulePart.perhaps.sizeOf_spec]; omega
  · simp only [List.cons.sizeOf_spec, RulePart.again.sizeOf_spec]; omega

end Rule

/-- A way through a rule: what is left of it, and the expressions that are kept so far. -/
structure Way (M N : Type) (E : Type u) where
  left : Rule M N
  kept : List (N × E)

namespace Way

variable {M N : Type} {E : Type u}

/-- The ways behind a mark. -/
def passMark [DecidableEq M] (m : M) (way : Way M N E) : List (Way M N E) :=
  way.left.ahead.filterMap fun
    | .mark m' rest => if m' = m then some ⟨rest, way.kept⟩ else none
    | _ => none

/-- The ways behind an expression. -/
def passExpr (e : E) (way : Way M N E) : List (Way M N E) :=
  way.left.ahead.filterMap fun
    | .hole name rest => some ⟨rest, way.kept ++ [(name, e)]⟩
    | _ => none

/-- What is kept, for each way in which the rule may end here. -/
def passEnd (way : Way M N E) : List (List (N × E)) :=
  way.left.ahead.filterMap fun
    | .done => some way.kept
    | _ => none

/-- Reads words along all open ways. -/
def followAll [DecidableEq M] : List (Way M N E) → List (Word M E) →
    Except Misreading (List (N × E))
  | ways, [] =>
    match ways.flatMap passEnd with
    | [] => .error .unexpected
    | [kept] => .ok kept
    | _ => .error .ambiguous
  | ways, .mark m :: words =>
    match ways.flatMap (passMark m) with
    | [] => .error .unexpected
    | ways => followAll ways words
  | ways, .expr e :: words =>
    match ways.flatMap (passExpr e) with
    | [] => .error .unexpected
    | [way] => followAll [way] words
    | _ => .error .ambiguous
  | _, .stray :: _ => .error .unexpected

end Way

namespace Rule

variable {M N : Type} {E : Type u} [DecidableEq M]

/-- Reads words by a rule and gives the expressions that the rule keeps. -/
def read (rule : Rule M N) (words : List (Word M E)) : Except Misreading (List (N × E)) :=
  Way.followAll [⟨rule, []⟩] words

/-- Reads words by the first of some rules that can read them. An ambiguity is final: no later rule
is tried. -/
def readFirst? : List (Rule M N) → List (Word M E) → Option (List (N × E))
  | [], _ => none
  | rule :: rules, words =>
    match rule.read words with
    | .ok kept => some kept
    | .error .unexpected => readFirst? rules words
    | .error .ambiguous => none

end Rule

end TagDispatch
