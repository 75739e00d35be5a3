import TagDispatch.Text.Cluster
import TagDispatch.Text.Letter

/-!
# Snake case

The words of a name in lower case, joined by underscores. A word ends at an underscore, where the
case rises, on either side of a number, and before the last capital of a run that a small letter
follows.

Derivations leave this to the package `convert_case`, whose snake case with the boundaries it has by
default is what is defined here. They take it as it comes, so results about them rest on few of its
properties: those of `Text.Casing`, and those of `Text.RawCasing` where names are spelled raw.
-/

namespace TagDispatch.Text

/-- What a cluster counts as where words are told apart. -/
inductive LetterKind where
  | upper
  | lower
  | digit
  | other
deriving DecidableEq

/-- The kind of a cluster: it has a case if its two cases differ and it is one of them. -/
def LetterKind.of (cluster : List Char) : LetterKind :=
  if toUpper cluster ≠ toLower cluster ∧ cluster = toUpper cluster then .upper
  else if toUpper cluster ≠ toLower cluster ∧ cluster = toLower cluster then .lower
  else if cluster.all Char.isDigit then .digit
  else .other

/-- Whether a word begins at a cluster that has another before it and perhaps one after it. -/
def beginsWord (before here : LetterKind) (after : Option LetterKind) : Bool :=
  match before, here, after with
  | .lower, .upper, _ | .upper, .digit, _ | .digit, .upper, _ => true
  | .digit, .lower, _ | .lower, .digit, _ => true
  | .upper, .upper, some .lower => true
  | _, _, _ => false

/-- Splits clusters into words, some of them empty; the first goes on with the word of the cluster
before, whose kind is `before`. -/
def splitWords (before : Option LetterKind) : List (List Char) → List (List Char)
  | [] => [[]]
  | cluster :: rest =>
    let here := LetterKind.of cluster
    match splitWords (some here) rest with
    | [] => [cluster]
    | word :: more =>
      if cluster = ['_'] then [] :: word :: more
      else if before.any fun b => beginsWord b here (rest.head?.map LetterKind.of) then
        [] :: (cluster ++ word) :: more
      else (cluster ++ word) :: more

/-- The words of a name. -/
def words (name : String) : List (List Char) :=
  (splitWords none (clusters name.toList)).filter fun word => word != []

/-- A name in snake case, as `convert_case` writes it. -/
def snakeCase (name : String) : String :=
  "_".intercalate ((words name).map fun word => String.ofList (toLower word))

end TagDispatch.Text
