import TagDispatch.Script.Command

/-!
# Scripts over loose values

Loose values carry any text as their tag and any data as their payload. A loose pattern names one
tag and holds payloads under a list of tags, so it can contradict itself.
-/

namespace TagDispatch.Script

/-- A value with any tag and any payload. -/
structure Loose where
  tag : String
  payload : Datum

instance : Tagged Loose String := ⟨Loose.tag⟩

/-- A loose value shows nothing of itself. -/
instance : Shown Loose := ⟨fun _ => .atom "Loose"⟩

/-- The pattern that names `tag` and holds the payload under each tag of `holds`. -/
def Loose.pattern (tag : String) (holds : List String) : Pattern Loose String Datum where
  tag := tag
  peek? v := if v.tag ∈ holds then some v.payload else none
  take v := if v.tag ∈ holds then .ok v.payload else .error v

/-- A command of scripts over loose values. -/
inductive LooseCommand where
  /-- Builds a value. -/
  | of (name tag : String) (payload : Datum)
  /-- Makes a pattern; without a list it holds payloads under its own tag. -/
  | pattern (name tag : String) (holds : Option (List String))
  /-- Lists which of some tags a table does not cover. -/
  | uncovered (table : String) (tags : List String)

/-- Carries out a command of scripts over loose values. -/
def LooseCommand.perform (s : Session Loose String Unit) :
    LooseCommand → Except Fault (Answer × Session Loose String Unit)
  | .of name tag payload =>
    let v : Loose := ⟨tag, payload⟩
    pure ({ s with values := s.values.put name v }.report (.described (.of v)))
  | .pattern name tag holds =>
    let p := Loose.pattern tag (holds.getD [tag])
    pure ({ s with patterns := s.patterns.put name ⟨p, none⟩ }.report (.tagName p.tag))
  | .uncovered tName tags => s.reportUncovered tName tags

/-- Runs a script over loose values. -/
def runLoose (steps : List (Step LooseCommand)) : Except Fault (List Answer) :=
  runSteps LooseCommand.perform { world := () } steps

end TagDispatch.Script
