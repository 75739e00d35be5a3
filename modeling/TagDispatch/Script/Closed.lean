import TagDispatch.Script.Command
import TagDispatch.Script.PayloadDatum
import TagDispatch.Script.Samples

/-!
# Scripts over a closed registry

A script over a sample registry finds the patterns of all tags named from the start.
-/

namespace TagDispatch.Script

open Registry

/-- The values of a sample registry. -/
abbrev Sample.Value (r : Sample) : Type := Registry.Value PayloadType.Val r

/-- The payload of a variant as data. -/
def carriedToDatum : (field : Option PayloadType) → Carried PayloadType.Val field → Datum
  | some t, x => t.toDatum x
  | none, _ => .null

/-- The payload of a variant that the data stands for. -/
def carriedOfDatum? : (field : Option PayloadType) → Datum → Option (Carried PayloadType.Val field)
  | some t, d => t.ofDatum? d
  | none, .null => some ()
  | none, _ => none

/-- The tree of a payload, for a variant that has a field. -/
def carriedDump : (field : Option PayloadType) → Carried PayloadType.Val field → List Dump
  | some t, x => [t.dump x]
  | none, _ => []

/-- A value is shown by the identifier of its variant, never raw, and its payload. -/
instance (r : Sample) : Shown r.Value where
  dump v := .tuple v.tag.variant.ident.text (carriedDump _ v.payload)

/-- The pattern of a tag under the name of the tag, with payloads as data. -/
def Sample.namedPattern (r : Sample) (t : r.Tag) : String × NamedPattern r.Value r.Tag :=
  (Tag.name t, ⟨(t.pattern PayloadType.Val).map (carriedToDatum _), some (dump t)⟩)

/-- A command of scripts over a closed registry. -/
inductive ClosedCommand where
  /-- Builds a value. -/
  | of (name tag : String) (payload : Datum)
  /-- Lists the registry. -/
  | registry
  /-- Lists the tags of the registry that a table does not cover. -/
  | uncovered (table : String)

/-- Carries out a command of scripts over a closed registry. -/
def ClosedCommand.perform {r : Sample} (s : Session r.Value r.Tag Unit) :
    ClosedCommand → Except Fault (Answer × Session r.Value r.Tag Unit)
  | .of name tag payload =>
    match r.tags.find? fun t => Tag.name t = tag with
    | some t =>
      match carriedOfDatum? t.variant.field payload with
      | some x =>
        let v : r.Value := t.value x
        pure ({ s with values := s.values.put name v }.report (.described (.of v)))
      | none => .error (.badPayload tag)
    | none => .error (.noTag tag)
  | .registry =>
    let names := r.tags.map Tag.name
    pure (s.report (.registry r.name names (r.tags.map fun t => (dump t).compact) names))
  | .uncovered tName => s.reportUncovered tName r.tags

/-- Runs a script over a sample registry. -/
def runClosed (r : Sample) (steps : List (Step ClosedCommand)) : Except Fault (List Answer) :=
  runSteps ClosedCommand.perform
    { patterns := r.tags.map r.namedPattern, world := () : Session r.Value r.Tag Unit } steps

end TagDispatch.Script
