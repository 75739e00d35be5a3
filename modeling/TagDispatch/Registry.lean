import TagDispatch.Ident
import TagDispatch.Pattern

/-!
# Closed registries

A registry declares the variants of a closed family in order, each with or without a field. It
gives rise to a type of tags and a type of values. Every tag has a pattern, which is lawful, and
makes a value of every payload of its variant.
-/

namespace TagDispatch

/-- A variant: its identifier and the type of its field, if it has one. -/
structure Variant (F : Type) where
  ident : Ident
  field : Option F
deriving DecidableEq

/-- An identifier and the variants under it, in declaration order. -/
structure Registry (F : Type) where
  ident : Ident
  variants : List (Variant F)
deriving DecidableEq

namespace Registry

variable {F : Type}

/-- The name that messages use. -/
def name (r : Registry F) : String := r.ident.spelling

/-- A tag: the place of its variant. -/
@[ext]
structure Tag (r : Registry F) where
  place : Fin r.variants.length

instance (r : Registry F) : DecidableEq r.Tag := fun _ _ => decidable_of_iff _ Tag.ext_iff.symm

/-- The variant of a tag. -/
def Tag.variant {r : Registry F} (t : r.Tag) : Variant F := r.variants[t.place]

/-- A tag is named by its variant as it is written. -/
instance (r : Registry F) : TagDispatch.Tag r.Tag := ⟨fun t => t.variant.ident.spelling⟩

/-- A tag is shown by the identifier of its variant, never raw. -/
instance (r : Registry F) : Shown r.Tag := ⟨fun t => .atom t.variant.ident.text⟩

/-- All tags in declaration order. -/
def tags (r : Registry F) : List r.Tag := (List.finRange r.variants.length).map Tag.mk

variable (den : F → Type) (r : Registry F)

/-- What a variant carries: a value of the type of its field, or nothing. -/
def Carried : Option F → Type
  | some f => den f
  | none => Unit

/-- The payloads of a tag. -/
abbrev Payload (t : r.Tag) : Type := Carried den t.variant.field

/-- A value: a tag and a payload of that tag. -/
structure Value where
  tag : r.Tag
  payload : r.Payload den tag

instance : Tagged (r.Value den) r.Tag := ⟨Value.tag⟩

variable {den r}

/-- The value of a tag with a payload. -/
def Tag.value (t : r.Tag) (x : r.Payload den t) : r.Value den := ⟨t, x⟩

/-- The payload of a value, if it carries the tag. -/
def Value.payload? (v : r.Value den) (t : r.Tag) : Option (r.Payload den t) :=
  if h : v.tag = t then some (h ▸ v.payload) else none

variable (den) in
/-- The pattern of a tag. -/
def Tag.pattern (t : r.Tag) : Pattern (r.Value den) r.Tag (r.Payload den t) where
  tag := t
  peek? v := v.payload? t
  take v := if h : v.tag = t then .ok (h ▸ v.payload) else .error v

/-! ## Patterns of tags -/

@[simp]
theorem payload?_value (t : r.Tag) (x : r.Payload den t) : (t.value x).payload? t = some x := by
  simp [Tag.value, Value.payload?]

theorem payload?_of_ne {v : r.Value den} {t : r.Tag} (h : v.tag ≠ t) : v.payload? t = none := by
  simp [Value.payload?, h]

/-- The pattern of a tag holds the payload of exactly the values with that tag. -/
theorem pattern_lawful (t : r.Tag) : (t.pattern den).Lawful := by
  intro v
  by_cases h : v.tag = t
  · constructor <;> simp [Tag.pattern, Value.payload?, Tagged.tag, h]
  · constructor <;> simp [Tag.pattern, Value.payload?, Tagged.tag, h]

end Registry

end TagDispatch
