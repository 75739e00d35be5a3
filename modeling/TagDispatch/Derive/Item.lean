import TagDispatch.Derive.Attribute

/-!
# Items

The declaration that a registry is derived for: an enum, struct or union with its attributes,
visibility, parameters and variants. An item is read from its parts, each written as text, and
becomes what the package `syn` makes of their tokens.
-/

namespace TagDispatch.Derive

/-- A type or a visibility, word by word. -/
abbrev Words := List String

/-- What an item declares. -/
inductive ItemKind where
  | enum
  | struct
  | union
deriving DecidableEq

/-- The fields of a variant. -/
inductive Fields where
  | unit
  | unnamed (types : List Words)
  | named
deriving DecidableEq

/-- A variant of an enum. -/
structure ItemVariant where
  ident : Ident
  fields : Fields
deriving DecidableEq

/-- An item. -/
structure Item where
  kind : ItemKind
  ident : Ident
  visibility : Words
  /-- Whether the item has parameters. -/
  generic : Bool
  attributes : List Attribute
  variants : List ItemVariant
deriving DecidableEq

/-- The parts of an attribute as they are written. -/
structure AttributeText where
  path : String
  form : String
  items : List (String × Option String)

/-- The parts of a variant as they are written. -/
structure VariantText where
  name : String
  fields : String
  types : List String

/-- The parts of an item as they are written. -/
structure ItemText where
  kind : String
  name : String
  visibility : String
  parameters : String
  attributes : List AttributeText
  variants : List VariantText

/-- A list of attribute items as one text. -/
def itemsText (items : List (String × Option String)) : String :=
  ", ".intercalate (items.map fun (key, value) =>
    match value with
    | some v => key ++ " = " ++ v
    | none => key)

/-- Reads an attribute. -/
def AttributeText.read? (a : AttributeText) : Option Attribute := do
  let path ← tokens? a.path
  match a.form with
  | "path" => some ⟨path, .bare⟩
  | "name_value" => some ⟨path, .assigned⟩
  | "list" => (tokens? (itemsText a.items)).map fun tokens => ⟨path, .list tokens⟩
  | _ => none

/-- Reads a name. -/
def readName? (text : String) : Option Ident :=
  match tokens? text with
  | some [.ident i] => if isReserved i then none else some i
  | _ => none

/-- Reads a type. -/
def readType? (text : String) : Option Words := (runs? text).map (·.flatMap runSpellings)

/-- Reads a variant. -/
def VariantText.read? (v : VariantText) : Option ItemVariant := do
  let ident ← readName? v.name
  match v.fields with
  | "unit" => some ⟨ident, .unit⟩
  | "unnamed" => (v.types.mapM readType?).map fun types => ⟨ident, .unnamed types⟩
  | "named" => some ⟨ident, .named⟩
  | _ => none

/-- Reads the kind of an item. -/
def ItemKind.read? : String → Option ItemKind
  | "enum" => some enum
  | "struct" => some struct
  | "union" => some union
  | _ => none

/-- Whether the tokens of a list of parameters declare any; brackets with nothing between them do
not. -/
def declaresParameters : List Token → Bool
  | [] => false
  | [.mark '<' _, .mark '>' _] => false
  | _ => true

/-- Reads an item; only an enum has variants. -/
def ItemText.read? (i : ItemText) : Option Item := do
  let kind ← ItemKind.read? i.kind
  let ident ← readName? i.name
  let visibility ← tokens? i.visibility
  let parameters ← tokens? i.parameters
  let attributes ← i.attributes.mapM AttributeText.read?
  let variants ← if kind = .enum then i.variants.mapM VariantText.read? else some []
  pure {
    kind
    ident
    visibility := spellings visibility
    generic := declaresParameters parameters
    attributes
    variants }

end TagDispatch.Derive
