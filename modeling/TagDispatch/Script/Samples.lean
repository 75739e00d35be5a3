import TagDispatch.PayloadType
import TagDispatch.Registry

/-!
# Sample registries

Closed registries that scripts can name: unit variants and variants with every kind of field, one
variant alone, names that other libraries use, and identifiers that have to be written raw.
-/

namespace TagDispatch.Script

open PayloadType

/-- A registry of scripts. -/
abbrev Sample := Registry PayloadType

/-- A variant that carries nothing. -/
def unitVariant (name : String) : Variant PayloadType := ⟨⟨name, false⟩, none⟩

/-- A variant with a field. -/
def fieldVariant (name : String) (type : PayloadType) : Variant PayloadType :=
  ⟨⟨name, false⟩, some type⟩

namespace Sample

/-- Drawn shapes, with fields from none to nested tuples. -/
def shape : Sample where
  ident := ⟨"Shape", false⟩
  variants :=
    [unitVariant "Dot",
      fieldVariant "Circle" (int .i64),
      fieldVariant "Segment" (pair (pair (int .i64) (int .i64)) (pair (int .i64) (int .i64))),
      fieldVariant "Label" ownedText]

/-- One variant that carries nothing. -/
def only : Sample where
  ident := ⟨"Only", false⟩
  variants := [unitVariant "Unit"]

/-- One variant with a field. -/
def lone : Sample where
  ident := ⟨"Lone", false⟩
  variants := [fieldVariant "Box" (list (int .i64))]

/-- Variants named like those of an option. -/
def type : Sample where
  ident := ⟨"Type", false⟩
  variants :=
    [fieldVariant "Some" (pair (int .i32) ownedText),
      unitVariant "None",
      fieldVariant "Maybe" (option (int .i32)),
      fieldVariant "Key" char]

/-- An enum and a variant with raw names, and a variant with a name outside ASCII. -/
def move : Sample where
  ident := ⟨"Move", true⟩
  variants :=
    [unitVariant "Stay",
      ⟨⟨"type", true⟩, some (int .i64)⟩,
      fieldVariant "Été" bool]

/-- Coins, the last with its state. -/
def coin : Sample where
  ident := ⟨"Coin", false⟩
  variants := [unitVariant "Penny", unitVariant "Nickel", fieldVariant "Quarter" ownedText]

/-- The sample with a name. -/
def ofName? (name : String) : Option Sample :=
  [shape, only, lone, type, move].find? fun sample => sample.ident.text = name

end Sample

end TagDispatch.Script
