import TagDispatch.Text.Dump
import TagDispatch.Text.Quoted

/-!
# Tags

A tag says which alternative of a family a value belongs to. Tags are told apart by equality; their
names are for messages and need not be distinct.
-/

namespace TagDispatch

/-- Tags with a name for messages. -/
class Tag (T : Type) where
  name : T → String

/-- A text used as a tag is its own name. -/
instance : Tag String := ⟨id⟩

/-- A text is shown in quotes. -/
instance : Shown String := ⟨fun s => .atom (Text.quoted s)⟩

/-- Values that carry a tag. -/
class Tagged (V : Type) (T : outParam Type) where
  tag : V → T

export Tagged (tag)

end TagDispatch
