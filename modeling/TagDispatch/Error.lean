import TagDispatch.Text.Dump
import TagDispatch.Text.Quoted

/-!
# Errors

What can go wrong between tags and payloads. The first three errors are answers of a schema that
refuses a declaration or a payload; the last two are defects of a table or of a branch, which end
the run that meets them.
-/

namespace TagDispatch

/-- A disagreement between a tag and what is declared, handled or carried under it. -/
inductive Error where
  /-- A payload of type `found` for a tag declared with the type `expected`. -/
  | shapeMismatch (tag expected found : String)
  /-- A tag that the registry does not declare. -/
  | unknownTag (registry tag : String)
  /-- A tag that the registry declares twice. -/
  | duplicateTag (registry tag : String)
  /-- A value whose tag has no handler in a table without a fallback. -/
  | handlerKey (tag : String)
  /-- A branch for `expected` that was entered with a value tagged `found`. -/
  | branchKeyMismatch (expected found : String)
deriving DecidableEq

namespace Error

/-- The sentence that reports the error. -/
def message : Error → String
  | shapeMismatch tag expected found =>
    "payload for tag `" ++ tag ++ "` must be `" ++ expected ++ "`, found `" ++ found ++ "`"
  | unknownTag registry tag =>
    "tag `" ++ tag ++ "` is not registered in `" ++ registry ++ "`"
  | duplicateTag registry tag =>
    "tag `" ++ tag ++ "` is declared more than once in `" ++ registry ++ "`"
  | handlerKey tag => "no handler for tag `" ++ tag ++ "` and no ELSE fallback"
  | branchKeyMismatch expected found =>
    "branch for tag `" ++ expected ++ "` invoked on a value tagged `" ++ found ++ "`"

/-- The name of the kind of error. -/
def kind : Error → String
  | shapeMismatch .. => "ShapeMismatch"
  | unknownTag .. => "UnknownTag"
  | duplicateTag .. => "DuplicateTag"
  | handlerKey .. => "HandlerKey"
  | branchKeyMismatch .. => "BranchKeyMismatch"

/-- The texts of the error by name. -/
def fields : Error → List (String × String)
  | shapeMismatch tag expected found => [("tag", tag), ("expected", expected), ("found", found)]
  | unknownTag registry tag => [("registry", registry), ("tag", tag)]
  | duplicateTag registry tag => [("registry", registry), ("tag", tag)]
  | handlerKey tag => [("tag", tag)]
  | branchKeyMismatch expected found => [("expected", expected), ("found", found)]

/-- An error is shown as a record of its texts. -/
instance : Shown Error where
  dump e := .record e.kind (e.fields.map fun field => (field.1, .atom (Text.quoted field.2))) false

end Error

end TagDispatch
