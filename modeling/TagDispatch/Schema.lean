import TagDispatch.Pattern
import TagDispatch.TypeCode

/-!
# Schemas

A schema is a registry that is declared while the program runs. Every build has an identity of its
own, taken from a counter, and tags of different builds differ even under equal names. A schema
checks the type of every payload and of every pattern against its declaration, so a pattern takes
the payload of every value that carries its tag.
-/

namespace TagDispatch

/-- A tag of a schema: the identity of the build, and the names of registry and tag. -/
structure SchemaTag where
  schema : UInt64
  registry : String
  name : String
deriving DecidableEq

instance : Tag SchemaTag := ⟨SchemaTag.name⟩

/-- A tag is shown under its registry, both names as they are. -/
instance : Shown SchemaTag := ⟨fun t => .atom (t.registry ++ "::" ++ t.name)⟩

/-- A value of a schema: its tag and a payload together with the type of the payload. -/
structure SchemaValue (C : Type) [TypeCode C] where
  tag : SchemaTag
  type : C
  payload : TypeCode.Val type

/-- A pattern of a schema: a tag, and the type that was checked against its declaration. -/
structure SchemaPattern (C : Type) where
  tag : SchemaTag
  type : C
deriving DecidableEq

/-- Declarations that are not yet built. -/
structure SchemaDraft (C : Type) where
  name : String
  declarations : List (String × C) := []
deriving DecidableEq

/-- A built schema: its identity, its name, and the declared type of every tag. -/
structure Schema (C : Type) where
  id : UInt64
  name : String
  declarations : List (String × C)
deriving DecidableEq

variable {C : Type}

namespace SchemaDraft

/-- Declares a tag with a type of payload. -/
def declare (draft : SchemaDraft C) (tag : String) (type : C) : SchemaDraft C :=
  { draft with declarations := draft.declarations ++ [(tag, type)] }

/-- Declares a tag that carries nothing. -/
def declareUnit [TypeCode C] (draft : SchemaDraft C) (tag : String) : SchemaDraft C :=
  draft.declare tag TypeCode.unit

/-- The first name that stands in `seen` or earlier in the list itself. -/
def firstRepeat? (seen : List String) : List String → Option String
  | [] => none
  | name :: rest => if name ∈ seen then some name else firstRepeat? (name :: seen) rest

/-- Builds the schema with the next identity. A tag that is declared twice is refused, and then no
identity is used. -/
def build (draft : SchemaDraft C) (next : UInt64) : Except Error (Schema C × UInt64) :=
  match firstRepeat? [] (draft.declarations.map (·.1)) with
  | some tag => .error (.duplicateTag draft.name tag)
  | none => .ok (⟨next, draft.name, draft.declarations⟩, next + 1)

end SchemaDraft

namespace Schema

/-- The tag with a name in this schema, declared or not. -/
def tagNamed (s : Schema C) (name : String) : SchemaTag := ⟨s.id, s.name, name⟩

/-- The tags in declaration order. -/
def tags (s : Schema C) : List SchemaTag := s.declarations.map fun d => s.tagNamed d.1

/-- The first declaration under a name. -/
def find? (s : Schema C) (name : String) : Option (SchemaTag × C) :=
  (s.declarations.find? fun d => d.1 = name).map fun d => (s.tagNamed d.1, d.2)

/-- The tag of a name, if it is declared. -/
def tag? (s : Schema C) (name : String) : Option SchemaTag := (s.find? name).map (·.1)

/-- The type that a name is declared with, if it is declared. -/
def type? (s : Schema C) (name : String) : Option C := (s.find? name).map (·.2)

variable [DecidableEq C] [TypeCode C]

/-- The tag of a name that is declared with the given type. -/
def check (s : Schema C) (name : String) (type : C) : Except Error SchemaTag :=
  match s.find? name with
  | none => .error (.unknownTag s.name name)
  | some (tag, declared) =>
    if declared = type then .ok tag
    else .error (.shapeMismatch tag.name (TypeCode.typeName declared) (TypeCode.typeName type))

/-- A value; its payload has to be of the declared type. -/
def value (s : Schema C) (name : String) (type : C) (payload : TypeCode.Val type) :
    Except Error (SchemaValue C) := do
  let tag ← s.check name type
  pure ⟨tag, type, payload⟩

/-- A pattern; its payload has to be of the declared type. -/
def pattern (s : Schema C) (name : String) (type : C) : Except Error (SchemaPattern C) := do
  let tag ← s.check name type
  pure ⟨tag, type⟩

end Schema

variable [TypeCode C]

instance : Tagged (SchemaValue C) SchemaTag := ⟨SchemaValue.tag⟩

/-- A value is shown by its tag alone. -/
instance : Shown (SchemaValue C) := ⟨fun v => .record "DynValue" [("tag", dump v.tag)] true⟩

/-- A pattern is shown by its tag and the type of its payload. -/
instance : Shown (SchemaPattern C) where
  dump p :=
    .record "DynVariant" [("tag", dump p.tag), ("payload", dump (TypeCode.typeName p.type))] false

variable [DecidableEq C]

/-- The payload of a value, if it is of the given type. -/
def SchemaValue.payload? (v : SchemaValue C) (type : C) : Option (TypeCode.Val type) :=
  if h : v.type = type then some (h ▸ v.payload) else none

@[simp]
theorem SchemaValue.payload?_mk (t : SchemaTag) (type : C) (x : TypeCode.Val type) :
    (SchemaValue.mk t type x).payload? type = some x := by
  simp [SchemaValue.payload?]

/-- The pattern compares tags first and then the type of the payload. -/
def SchemaPattern.toPattern (p : SchemaPattern C) :
    Pattern (SchemaValue C) SchemaTag (TypeCode.Val p.type) where
  tag := p.tag
  peek? v := if v.tag = p.tag then v.payload? p.type else none
  take v :=
    if v.tag = p.tag then
      match v.payload? p.type with
      | some x => .ok x
      | none => .error v
    else .error v

/-- A pattern is lawful at a value if their types agree where their tags do. -/
theorem SchemaPattern.lawfulAt (p : SchemaPattern C) (v : SchemaValue C)
    (h : v.tag = p.tag → v.type = p.type) : p.toPattern.LawfulAt v := by
  by_cases ht : v.tag = p.tag
  · have htype := h ht
    constructor <;> simp [toPattern, SchemaValue.payload?, Tagged.tag, ht, htype]
  · constructor <;> simp [toPattern, Tagged.tag, ht]

end TagDispatch
