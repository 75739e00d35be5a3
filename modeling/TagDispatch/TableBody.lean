import TagDispatch.Rule

/-!
# Bodies of table literals

The body of a table literal is a list of entries, each a pattern, an arrow and a handler, with
commas between them, perhaps a last entry for everything else, and perhaps one comma at the end. The
entry for everything else may stand alone. The rules of a literal say this in two parts, since a
comma goes before the entry for everything else only behind another entry.

What a literal denotes is the table that registers its entries in order and then the fallback.
-/

namespace TagDispatch

universe u v w x y

/-- A mark in the body of a table literal. -/
inductive BodyMark where
  | arrow
  | comma
  /-- The word that stands for everything else. -/
  | otherwise
deriving DecidableEq

/-- What an expression in the body of a table literal is. -/
inductive BodyHole where
  | pattern
  | handler
  /-- The handler of everything else. -/
  | rest
deriving DecidableEq

/-- The entries of a body, in order, and what handles everything else. -/
structure TableBody (A : Type u) (F : Type v) where
  arms : List A
  rest : Option F
deriving DecidableEq

namespace TableBody

variable {A : Type u} {F : Type v} {A' : Type w} {F' : Type x} {B : Type y} {E : Type u}

/-! ## The rules -/

/-- The rule of an entry. -/
def entry : Rule BodyMark BodyHole := [.hole .pattern, .mark .arrow, .hole .handler]

/-- The rule of an entry for everything else. -/
def otherwise : Rule BodyMark BodyHole := [.mark .otherwise, .mark .arrow, .hole .rest]

/-- The rule of a body with nothing but an entry for everything else. -/
def alone : Rule BodyMark BodyHole := otherwise ++ [.perhaps [.mark .comma]]

/-- The rule of a body with entries, and perhaps one for everything else behind them. -/
def entries : Rule BodyMark BodyHole :=
  Rule.onceOrMore .comma entry ++ [.perhaps (.mark .comma :: otherwise), .perhaps [.mark .comma]]

/-- The rules of a body. -/
def rules : List (Rule BodyMark BodyHole) := [alone, entries]

/-- The expressions that are kept under a name. -/
def keptAs (name : BodyHole) (kept : List (BodyHole × E)) : List E :=
  (kept.filter fun item => item.1 = name).map (·.2)

/-- The body that the kept expressions make: the patterns with their handlers, and the rest. -/
def ofKept (kept : List (BodyHole × E)) : TableBody (E × E) E where
  arms := (keptAs .pattern kept).zip (keptAs .handler kept)
  rest := (keptAs .rest kept).head?

/-- Reads a body. -/
def ofWords? (words : List (Word BodyMark E)) : Option (TableBody (E × E) E) :=
  (Rule.readFirst? rules words).map ofKept

/-! ## The words of a body -/

/-- The words of an entry. -/
def entryWords (arm : E × E) : List (Word BodyMark E) :=
  [.expr arm.1, .mark .arrow, .expr arm.2]

/-- The words of an entry for everything else. -/
def otherwiseWords (f : E) : List (Word BodyMark E) := [.mark .otherwise, .mark .arrow, .expr f]

/-- The words of a body, with or without a comma at the end. -/
def words (body : TableBody (E × E) E) (trailing : Bool) : List (Word BodyMark E) :=
  [.mark .comma].intercalate (body.arms.map entryWords ++ body.rest.toList.map otherwiseWords) ++
    if trailing then [.mark .comma] else []

/-! ## The table -/

/-- The body with the meanings of its entries and of its handler of everything else, if all of them
have one. -/
def mean? (arm? : A → Option A') (rest? : F → Option F')
    (body : TableBody A F) : Option (TableBody A' F') :=
  (body.arms.mapM arm?).bind fun arms =>
    match body.rest with
    | some f => (rest? f).map fun f => ⟨arms, some f⟩
    | none => some ⟨arms, none⟩

/-- Builds a table from a body: the entries in order, then the fallback. -/
def build (body : TableBody A F) (empty : B) (on : B → A → B) (fallback : B → F → B) : B :=
  let filled := body.arms.foldl on empty
  match body.rest with
  | some f => fallback filled f
  | none => filled

/-- The table that a literal denotes, where `arm?` is what an entry means and `rest?` what the
handler of everything else means. -/
def literal? (arm? : E × E → Option A') (rest? : E → Option F')
    (empty : B) (on : B → A' → B) (fallback : B → F' → B) (words : List (Word BodyMark E)) :
    Option B :=
  ((ofWords? words).bind (mean? arm? rest?)).map (build · empty on fallback)

end TableBody

end TagDispatch
