import TagDispatch.Schema
import TagDispatch.Script.Command
import TagDispatch.Script.PayloadDatum

/-!
# Scripts over schemas

A script over schemas declares its registries as it goes. Every schema that is built takes the next
identity; a copy keeps the identity of what it was copied from.
-/

namespace TagDispatch.Script

/-- The schemas of a script and the identity of the next one to be built. -/
structure SchemaWorld where
  next : UInt64 := 0
  schemas : Store (Schema PayloadType) := []

/-- A session over schemas. -/
abbrev SchemaSession := Session (SchemaValue PayloadType) SchemaTag SchemaWorld

/-- The types that a script can name. -/
def namedTypes : List PayloadType :=
  open PayloadType in
  [unit, bool, int .i8, int .u8, int .u16, int .u32, int .u64, int .i32, int .i64, char, ownedText,
    borrowedText, single (int .u16), pair (int .u16) (int .u16), pair (int .u32) (int .u32),
    pair (int .i32) borrowedText, pair (int .i32) ownedText, pair (pair (int .i64) (int .i64)) bool,
    list (int .i64), list ownedText, option (int .i32), option (option (int .i32)),
    list (pair (int .u8) char)]

/-- The type with a spelling. -/
def typeOfSpelling (spelling : String) : Except Fault PayloadType :=
  match namedTypes.find? fun t => t.spelling = spelling with
  | some t => .ok t
  | none => .error (.noType spelling)

/-- A command of scripts over schemas. Types are given by their spelling. -/
inductive SchemaCommand where
  /-- Builds a schema; a tag without a type carries nothing. -/
  | build (name registry : String) (variants : List (String × Option String))
  /-- Copies a schema. -/
  | copy (schema name : String)
  /-- Lists the tags of a schema. -/
  | list (schema : String)
  /-- Looks a tag up. -/
  | findTag (schema tag : String)
  /-- Compares two looked-up tags. -/
  | sameTag (schema tag otherSchema otherTag : String)
  /-- Compares the type of a tag with another type. -/
  | compareType (schema tag type : String)
  /-- Builds a value. -/
  | of (name schema tag type : String) (payload : Datum)
  /-- Makes a pattern. -/
  | pattern (name schema tag type : String)
  /-- Looks for a payload of a type in a value. -/
  | findPayload (value type : String)
  /-- Names the registry of a value. -/
  | registryOf (value : String)
  /-- Lists the tags of a schema that a table does not cover. -/
  | uncovered (table schema : String)

/-- The schema with a name. -/
def SchemaSession.schema (s : SchemaSession) (name : String) : Except Fault (Schema PayloadType) :=
  (s.world.schemas.get? name).elim (.error (.noSchema name)) .ok

/-- Declares the variants of a schema one after the other. -/
def declareAll (registry : String) (variants : List (String × Option PayloadType)) :
    SchemaDraft PayloadType :=
  variants.foldl
    (fun draft (tag, type) =>
      match type with
      | some t => draft.declare tag t
      | none => draft.declareUnit tag)
    { name := registry }

/-- The row of a tag in the listing of a schema. -/
def tagRow (s : Schema PayloadType) (t : SchemaTag) : TagRow where
  name := Tag.name t
  registry := t.registry
  dump := (dump t).compact
  typeName := ((s.type? (Tag.name t)).map TypeCode.typeName).getD ""

/-- Carries out a command of scripts over schemas. -/
def SchemaCommand.perform (s : SchemaSession) :
    SchemaCommand → Except Fault (Answer × SchemaSession)
  | .build name registry variants => do
    let variants ← variants.mapM fun (tag, type) => do
      let t ← type.mapM typeOfSpelling
      pure (tag, t)
    match (declareAll registry variants).build s.world.next with
    | .ok (schema, next) =>
      let world := { next, schemas := s.world.schemas.put name schema }
      pure ({ s with world }.report (.count schema.tags.length))
    | .error e => pure (⟨.refused e, []⟩, s)
  | .copy sName name => do
    let schema ← s.schema sName
    let world := { s.world with schemas := s.world.schemas.put name schema }
    pure ({ s with world }.report .nothing)
  | .list sName => do
    let schema ← s.schema sName
    pure (s.report (.schema schema.name (schema.tags.map (tagRow schema))))
  | .findTag sName tag => do
    let schema ← s.schema sName
    pure (s.report (.schemaTag ((schema.tag? tag).map fun t =>
      (Tag.name t, t.registry, (dump t).compact))))
  | .sameTag sName tag sName' tag' => do
    let schema ← s.schema sName
    let schema' ← s.schema sName'
    pure (s.report (.flag (schema.tag? tag = schema'.tag? tag')))
  | .compareType sName tag spelling => do
    let schema ← s.schema sName
    let other ← typeOfSpelling spelling
    match schema.type? tag with
    | some declared =>
      let same := decide (declared = other)
      pure (s.report (.typePair (TypeCode.typeName declared) (TypeCode.typeName other) same))
    | none => pure (s.report .nothing)
  | .of name sName tag spelling payload => do
    let schema ← s.schema sName
    let type ← typeOfSpelling spelling
    match type.ofDatum? payload with
    | some x =>
      match schema.value tag type x with
      | .ok v => pure ({ s with values := s.values.put name v }.report (.described (.of v)))
      | .error e => pure (⟨.refused e, []⟩, s)
    | none => .error (.badPayload spelling)
  | .pattern name sName tag spelling => do
    let schema ← s.schema sName
    let type ← typeOfSpelling spelling
    match schema.pattern tag type with
    | .ok p =>
      let named := ⟨p.toPattern.map p.type.toDatum, some (dump p)⟩
      pure ({ s with patterns := s.patterns.put name named }.report (.tagName (Tag.name p.tag)))
    | .error e => pure (⟨.refused e, []⟩, s)
  | .findPayload vName spelling => do
    let v ← s.value vName
    let type ← typeOfSpelling spelling
    pure (s.report (.optional ((v.payload? type).map type.toDatum)))
  | .registryOf vName => do
    let v ← s.value vName
    pure (s.report (.text v.tag.registry))
  | .uncovered tName sName => do
    let schema ← s.schema sName
    s.reportUncovered tName schema.tags

/-- Runs a script over schemas. -/
def runSchemas (steps : List (Step SchemaCommand)) : Except Fault (List Answer) :=
  runSteps SchemaCommand.perform { world := {} } steps

end TagDispatch.Script
