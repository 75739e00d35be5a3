import TagDispatch.Derive.Declaration
import TagDispatch.Derive.Emitted

/-!
# Expansion of a declaration

The tag of every variant names it, the enum tells the tag of its values and lists all tags, and
every marker is the pattern of its variant and builds its values.
-/

namespace TagDispatch.Derive

/-- A path of plain names. -/
def plainPath (names : List String) (rooted : Bool := false) : Path :=
  ⟨names.map fun name => ⟨name, false⟩, rooted⟩

/-- A name of the dispatch library. -/
def libraryPath (name : String) : Path := plainPath ["tagmatch", name] true

/-- A static text. -/
def staticText : TypeExpr := .ref "'static" (.path (plainPath ["str"]))

namespace Declaration

variable (d : Declaration)

/-- The enum itself. -/
def self : Path := ⟨[d.registry.ident], false⟩

/-- The enum of tags. -/
def tagEnum : Path := ⟨[d.module, ⟨"Tag", false⟩], false⟩

/-- The tag of a variant. -/
def tagPath (i : Ident) : Path := ⟨[d.module, ⟨"Tag", false⟩, i], false⟩

/-- The marker of a variant. -/
def markerPath (i : Ident) : Path := ⟨[d.module, i], false⟩

/-- A variant of the enum. -/
def variantPath (i : Ident) : Path := ⟨[d.registry.ident, i], false⟩

/-- The identifiers of the variants, in order. -/
def idents : List Ident := d.registry.variants.map Variant.ident

/-- Every tag has the name of its variant. -/
def tagImpl : Implementation where
  trait := libraryPath "Tag"
  target := d.tagEnum
  members := [.function {
    name := "name"
    params := [.self]
    result := staticText
    body := .matchOn "self" (d.idents.map fun i => (.path (d.tagPath i), .text i.spelling)) }]

/-- Every value has the tag of its variant. -/
def matchableImpl : Implementation where
  trait := libraryPath "Matchable"
  target := d.self
  members := [
    .type "Tag" (.path d.tagEnum),
    .function {
      name := "tag"
      params := [.selfRef]
      result := .path d.tagEnum
      body := .matchOn "self"
        (d.idents.map fun i => (.anyFields (d.variantPath i), .path (d.tagPath i))) }]

/-- The enum has a name and lists its tags. -/
def registryImpl : Implementation where
  trait := libraryPath "Registry"
  target := d.self
  members := [
    .const "NAME" staticText (.text d.registry.ident.spelling),
    .const "TAGS" (.ref "'static" (.slice (.path d.tagEnum)))
      (.ref (.paths (d.idents.map d.tagPath)))]

/-- The type of a payload. -/
def payloadType (v : Variant Words) : TypeExpr := v.field.elim .unit .words

/-- The pattern that a value of the variant matches. -/
def armPattern (v : Variant Words) : MatchPattern :=
  match v.field with
  | none => .path (d.variantPath v.ident)
  | some _ => .field (d.variantPath v.ident) "payload"

/-- A function of the core library on options or results. -/
def corePath (names : List String) : Path := plainPath ("core" :: names) true

/-- The marker of a variant is its pattern. -/
def patternImpl (v : Variant Words) : Implementation where
  trait := libraryPath "Pattern"
  argument := some d.self
  target := d.markerPath v.ident
  members := [
    .type "Payload" (payloadType v),
    .function {
      name := "tag"
      params := [.selfRef]
      result := .path d.tagEnum
      body := .expr (.path (d.tagPath v.ident)) },
    .function {
      name := "peek"
      lenient := true
      lifetime := some "'v"
      params := [.selfRef, .named "value" (.ref "'v" (.path d.self))]
      result := .option (.ref "'v" (payloadType v))
      body := .matchOn "value" [
        (d.armPattern v,
          .apply (corePath ["option", "Option", "Some"])
            (v.field.elim (.ref .unit) fun _ => .name "payload")),
        (.wildcard, .path (corePath ["option", "Option", "None"]))] },
    .function {
      name := "take"
      lenient := true
      params := [.selfRef, .named "value" (.path d.self)]
      result := .result (payloadType v) (.path d.self)
      body := .matchOn "value" [
        (d.armPattern v,
          .apply (corePath ["result", "Result", "Ok"])
            (v.field.elim .unit fun _ => .name "payload")),
        (.name "other", .apply (corePath ["result", "Result", "Err"]) (.name "other"))] }]

/-- The marker of a variant builds its values. -/
def variantImpl (v : Variant Words) : Implementation where
  trait := libraryPath "Variant"
  argument := some d.self
  target := d.markerPath v.ident
  members := [
    .const "TAG" (.path d.tagEnum) (.path (d.tagPath v.ident)),
    .function {
      name := "inject"
      params := [v.field.elim .unit fun ws => .named "payload" (.words ws)]
      result := .path d.self
      body := .expr (v.field.elim (.path (d.variantPath v.ident))
        fun _ => .apply (d.variantPath v.ident) (.name "payload")) }]

/-- All declarations that a registry is expanded to. -/
def expand : Emitted where
  doc := "Tags and variant markers of `" ++ d.registry.ident.spelling ++ "`."
  visibility := d.visibility
  module := d.module
  tags := d.idents.map fun i => ⟨"The `" ++ i.spelling ++ "` tag.", i⟩
  markers := d.idents.map fun i => ⟨"Names the `" ++ i.spelling ++ "` variant.", i⟩
  implementations :=
    [d.tagImpl, d.matchableImpl, d.registryImpl] ++
      d.registry.variants.flatMap fun v => [d.patternImpl v, d.variantImpl v]

end Declaration

end TagDispatch.Derive
