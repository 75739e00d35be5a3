import TagDispatch.Script.Expr
import TagDispatch.Text.Dump
import TagDispatch.Tag

/-!
# Answers of a script

Every step of a script is answered by how it ended and by what was logged while it ran. A step that
cannot be carried out at all, because it names nothing or the wrong thing, is a fault of the script.
-/

namespace TagDispatch.Script

/-- A shown value: the name and the dump of its tag, and its own dump. -/
structure Description where
  tag : String
  tagDump : String
  dump : String

/-- Describes a value. -/
def Description.of {V T : Type} [Tagged V T] [Tag T] [Shown T] [Shown V] (v : V) : Description where
  tag := Tag.name (TagDispatch.tag v)
  tagDump := (TagDispatch.dump (TagDispatch.tag v)).compact
  dump := (TagDispatch.dump v).compact

/-- Both renderings of a dump. -/
structure Rendering where
  compact : String
  pretty : String

/-- Renders a dump both ways. -/
def Rendering.of (d : Dump) : Rendering := ⟨d.compact, d.pretty⟩

/-- A tag of a schema by its names, its dump and the name of its type. -/
structure TagRow where
  name : String
  registry : String
  dump : String
  typeName : String

/-- The result of a step. -/
inductive Report where
  /-- Nothing to tell. -/
  | nothing
  | count (n : Nat)
  | flag (b : Bool)
  | text (s : String)
  | texts (ss : List String)
  /-- A value that was built or looked at. -/
  | described (d : Description)
  /-- The name of a tag. -/
  | tagName (name : String)
  /-- A pattern: the name and the dump of its tag, and its own renderings. -/
  | pattern (tag tagDump : String) (rendering : Rendering)
  /-- A chain: the name of its tag and its dump. -/
  | chain (tag dump : String)
  | rendering (r : Rendering)
  /-- The result of something that always has one. -/
  | value (d : Datum)
  /-- The result of something that may have none. -/
  | optional (d : Option Datum)
  /-- The payload that was unwrapped. -/
  | unwrapped (d : Datum)
  /-- The value that came back from unwrapping. -/
  | returned (d : Description)
  /-- The answer of a guard. -/
  | guard (b : Bool)
  /-- A closed registry: its name, the names and dumps of its tags, and the names of its tag
  constants. -/
  | registry (name : String) (tags tagDumps constants : List String)
  /-- A schema: its name and its tags. -/
  | schema (name : String) (tags : List TagRow)
  /-- A tag of a schema, if there is one, by name, registry and dump. -/
  | schemaTag (tag : Option (String × String × String))
  /-- A declared type beside another: both names and whether they are the same type. -/
  | typePair (declared other : String) (same : Bool)

/-- How a step ended. -/
inductive Outcome where
  | report (r : Report)
  /-- A schema refused a declaration or a payload. -/
  | refused (e : Error)
  /-- The dispatcher met a defect. -/
  | defective (e : Error)
  /-- Code of the script panicked. -/
  | panicked (text : String)

/-- The answer to a step. -/
structure Answer where
  outcome : Outcome
  log : List (Entry Trace) := []

/-- Why a script cannot be carried out. -/
inductive Fault where
  | noValue (name : String)
  | noPattern (name : String)
  | noChain (name : String)
  | noTable (name : String)
  | noSchema (name : String)
  | noTag (name : String)
  | noType (name : String)
  | noRegistry (name : String)
  | noForm (name : String)
  /-- An open chain where a closed one is needed. -/
  | openChain (name : String)
  /-- Data that is no payload of the type. -/
  | badPayload (type : String)
  /-- A question about a pattern that has no dump. -/
  | noDump (name : String)

/-- The sentence that reports a fault. -/
def Fault.message : Fault → String
  | noValue name => "no value " ++ name
  | noPattern name => "no pattern " ++ name
  | noChain name => "no chain " ++ name
  | noTable name => "no table " ++ name
  | noSchema name => "no schema " ++ name
  | noTag name => "no tag " ++ name
  | noType name => "no type " ++ name
  | noRegistry name => "no registry " ++ name
  | noForm name => "no form " ++ name
  | openChain name => "open chain " ++ name
  | badPayload type => "not a payload of type " ++ type
  | noDump name => "nothing to show for " ++ name

end TagDispatch.Script
