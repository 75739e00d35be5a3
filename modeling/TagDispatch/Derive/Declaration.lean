import TagDispatch.Derive.Item
import TagDispatch.Registry
import TagDispatch.Text.SnakeCase

/-!
# Declarations of registries

An item declares a registry if it is an enum without parameters whose variants carry nothing or one
unnamed field. The tags and markers go into a module, which an attribute names or which takes the
name of the enum in snake case. The first rule that an item breaks is reported.

How an attribute is read and what snake case makes of a name is settled by the packages `syn` and
`convert_case`. Where it matters they are parameters, `read` of `Attribute.moduleNames` and `snake`
of `moduleOf`; what derivations use for them is `Derive.moduleNames` and `Text.snakeCase`.
-/

namespace TagDispatch.Derive

/-- A registry as it is declared: its types are still words. -/
structure Declaration where
  visibility : Words
  module : Ident
  registry : Registry Words
deriving DecidableEq

/-- Why an item declares no registry. -/
inductive DeriveError where
  | notEnum
  | generic
  | noVariants
  | inAttribute (e : AttributeError)
  /-- The name of the enum in snake case cannot name a module. -/
  | moduleName (name : String)
  /-- A variant has the name of the enum of tags. -/
  | tagVariant
  /-- A variant has no unnamed field or several. -/
  | payloadCount
  | namedFields
deriving DecidableEq

/-- The sentence that reports the broken rule. -/
def DeriveError.message : DeriveError → String
  | notEnum => "`Registry` can only be derived for enums"
  | generic => "generic registries are not supported"
  | noVariants => "a registry needs at least one variant"
  | inAttribute e => e.message
  | moduleName name =>
    "`" ++ name ++ "` cannot name a module; pick one with #[tagmatch(module = ...)]"
  | tagVariant => "a variant named `Tag` would collide with the generated tag enum"
  | payloadCount => "a variant carries exactly one payload; use a tuple such as `Variant((A, B))`"
  | namedFields =>
    "named fields are not supported; carry a struct payload such as `Variant(Record)`"

/-- The names that attributes give to the module, in order. -/
def givenNames : List Attribute → Except DeriveError (List Ident)
  | [] => .ok []
  | a :: rest =>
    match a.moduleNames moduleNames with
    | .error e => .error (.inAttribute e)
    | .ok names => (givenNames rest).map (names ++ ·)

/-- The module: the last name given, else the name of the enum in snake case as `snake` writes
it. -/
def moduleOf (snake : String → String) (ident : Ident) (given : List Ident) :
    Except DeriveError Ident :=
  match given.getLast? with
  | some name => .ok name
  | none =>
    let name := snake ident.spelling
    match nameOfSpelling? name with
    | some i => .ok i
    | none => .error (.moduleName name)

/-- The field of a variant. -/
def fieldOf : Fields → Except DeriveError (Option Words)
  | .unit => .ok none
  | .unnamed [type] => .ok (some type)
  | .unnamed _ => .error .payloadCount
  | .named => .error .namedFields

/-- A variant of the registry. -/
def variantOf (v : ItemVariant) : Except DeriveError (Variant Words) :=
  if v.ident = ⟨"Tag", false⟩ then .error .tagVariant
  else (fieldOf v.fields).map fun field => ⟨v.ident, field⟩

/-- The variants of the registry, in order. -/
def variantsOf : List ItemVariant → Except DeriveError (List (Variant Words))
  | [] => .ok []
  | v :: rest =>
    match variantOf v with
    | .error e => .error e
    | .ok variant => (variantsOf rest).map (variant :: ·)

/-- The registry that an item declares. -/
def Declaration.ofItem (item : Item) : Except DeriveError Declaration := do
  if item.kind ≠ .enum then .error .notEnum
  if item.generic then .error .generic
  if item.variants = [] then .error .noVariants
  let given ← givenNames item.attributes
  let module ← moduleOf Text.snakeCase item.ident given
  let variants ← variantsOf item.variants
  pure ⟨item.visibility, module, ⟨item.ident, variants⟩⟩

end TagDispatch.Derive
