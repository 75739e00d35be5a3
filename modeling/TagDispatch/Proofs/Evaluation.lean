import TagDispatch.Derive.Expansion

/-!
# What emitted code means

Emitted code stands next to the enum it is derived for. A path names a variant of that enum, a tag
or marker of the emitted module, or a constructor of the core library; `r#` does not count. A
function is looked up in the implementation of a trait, its parameters take the arguments, and its
body gives a value. The arms of a match are tried in order. Code that names nothing, applies what
takes no argument or has no arm for a value means nothing: the evaluators then give `none`.

References are values here, since the code only reads what it borrows.
-/

namespace TagDispatch.Derive

/-! ## Values -/

/-- What a path can name. -/
inductive Constructor where
  | variant (v : ItemVariant)
  | tag (name : String)
  | marker (name : String)
  | some
  | none
  | ok
  | error
deriving DecidableEq

/-- Whether a constructor takes a value. -/
def Constructor.hasField : Constructor → Bool
  | variant v => v.fields ≠ .unit
  | tag _ | marker _ | none => false
  | some | ok | error => true

/-- A value, with payloads of fields from `X`. -/
inductive Value (X : Type) where
  | unit
  | payload (x : X)
  | text (s : String)
  | constant (c : Constructor)
  | applied (c : Constructor) (argument : Value X)
  /-- A list of constants. -/
  | constants (cs : List Constructor)
deriving DecidableEq

variable {X : Type}

/-- The constructor of a value. -/
def Value.constructor? : Value X → Option Constructor
  | constant c => c
  | applied c _ => c
  | _ => none

/-- What a constructor was applied to. -/
def Value.argument? (c : Constructor) : Value X → Option (Value X)
  | applied c' x => if c' = c then some x else none
  | _ => none

/-! ## Names -/

/-- What a path spells once `r#` is dropped, and whether it begins at the root. -/
def Path.key (p : Path) : Bool × List String := (p.rooted, p.segments.map Ident.text)

/-- The variant of a name. -/
def Item.variant? (item : Item) (name : String) : Option ItemVariant :=
  item.variants.find? fun v => v.ident.text = name

/-- An item with the code that is emitted next to it. -/
structure Scope where
  item : Item
  code : Emitted

namespace Scope

/-- What a path names. -/
def resolve? (s : Scope) (p : Path) : Option Constructor :=
  match p.key with
  | (true, ["core", "option", "Option", "Some"]) => some .some
  | (true, ["core", "option", "Option", "None"]) => some .none
  | (true, ["core", "result", "Result", "Ok"]) => some .ok
  | (true, ["core", "result", "Result", "Err"]) => some .error
  | (false, [owner, name]) =>
    -- a path into the enum is one of its variants, even if the module has the same name
    if owner = s.item.ident.text then (s.item.variant? name).map .variant
    else if owner = s.code.module.text ∧ name ∈ s.code.markers.map (·.ident.text) then
      some (.marker name)
    else none
  | (false, [owner, "Tag", name]) =>
    if owner = s.code.module.text ∧ name ∈ s.code.tags.map (·.ident.text) then some (.tag name)
    else none
  | _ => none

/-- The constant that a path names. -/
def constant? (s : Scope) (p : Path) : Option Constructor :=
  (s.resolve? p).filter fun c => !c.hasField

/-- The constructor with a field that a path names. -/
def function? (s : Scope) (p : Path) : Option Constructor :=
  (s.resolve? p).filter Constructor.hasField

end Scope

/-! ## Expressions and matches -/

/-- The values that names stand for. -/
abbrev Env (X : Type) := List (String × Value X)

/-- The value of an expression. -/
def Expr.eval? (s : Scope) (env : Env X) : Expr → Option (Value X)
  | .path p => (s.constant? p).map .constant
  | .text t => some (.text t)
  | .unit => some .unit
  | .name n => env.lookup n
  | .ref target => target.eval? s env
  | .apply function argument => do
    let c ← s.function? function
    let x ← argument.eval? s env
    some (.applied c x)
  | .paths ps => (ps.mapM s.constant?).map .constants

/-- What a pattern binds in a value, if the value matches it. -/
def MatchPattern.bind? (s : Scope) : MatchPattern → Value X → Option (Option (Env X))
  | .path p, v => (s.constant? p).map fun c => if v.constructor? = some c then some [] else none
  | .anyFields p, v => (s.resolve? p).map fun c => if v.constructor? = some c then some [] else none
  | .field p n, v => (s.function? p).map fun c => (v.argument? c).map fun x => [(n, x)]
  | .wildcard, _ => some (some [])
  | .name n, v => some (some [(n, v)])

/-- The value of the first arm whose pattern matches. -/
def evalArms? (s : Scope) (env : Env X) (subject : Value X) :
    List (MatchPattern × Expr) → Option (Value X)
  | [] => none
  | (p, e) :: rest =>
    match p.bind? s subject with
    | none => none
    | some (some bound) => e.eval? s (bound ++ env)
    | some none => evalArms? s env subject rest

/-- The value of what a function returns. -/
def Body.eval? (s : Scope) (env : Env X) : Body → Option (Value X)
  | .expr e => e.eval? s env
  | .matchOn subject arms => (env.lookup subject).bind fun v => evalArms? s env v arms

/-! ## Functions -/

/-- The names that arguments get as parameters. -/
def bindParams? : List Param → List (Value X) → Option (Env X)
  | [], [] => some []
  | .self :: params, x :: xs | .selfRef :: params, x :: xs =>
    (bindParams? params xs).map (("self", x) :: ·)
  | .named n _ :: params, x :: xs => (bindParams? params xs).map ((n, x) :: ·)
  | .unit :: params, .unit :: xs => bindParams? params xs
  | _, _ => none

/-- The value of a function at arguments. -/
def Function.call? (s : Scope) (f : Function) (args : List (Value X)) : Option (Value X) :=
  (bindParams? f.params args).bind fun env => f.body.eval? s env

/-! ## Implementations -/

/-- What an implementation is found by: its trait, the argument of the trait and its target. -/
def Implementation.key (i : Implementation) :
    (Bool × List String) × Option (Bool × List String) × Bool × List String :=
  (i.trait.key, i.argument.map Path.key, i.target.key)

/-- The implementation of a trait of the library. -/
def Emitted.implementation? (e : Emitted) (trait : String) (argument : Option Path)
    (target : Path) : Option Implementation :=
  e.implementations.find? fun i =>
    i.key = ((libraryPath trait).key, argument.map Path.key, target.key)

/-- A type of an implementation. -/
def Implementation.type? (i : Implementation) (name : String) : Option TypeExpr :=
  i.members.findSome? fun
    | .type n t => if n = name then some t else none
    | _ => none

/-- A constant of an implementation. -/
def Implementation.const? (i : Implementation) (name : String) : Option Expr :=
  i.members.findSome? fun
    | .const n _ value => if n = name then some value else none
    | _ => none

/-- A function of an implementation. -/
def Implementation.function? (i : Implementation) (name : String) : Option Function :=
  i.members.findSome? fun
    | .function f => if f.name = name then some f else none
    | _ => none

namespace Scope

variable (s : Scope)

/-- The enum. -/
def enum : Path := ⟨[s.item.ident], false⟩

/-- The enum of tags. -/
def tagEnum : Path := ⟨[s.code.module, ⟨"Tag", false⟩], false⟩

/-- The marker of a variant. -/
def marker (v : ItemVariant) : Path := ⟨[s.code.module, v.ident], false⟩

/-- The value of a function of an implementation. -/
def call? (trait : String) (argument : Option Path) (target : Path) (name : String)
    (args : List (Value X)) : Option (Value X) := do
  let i ← s.code.implementation? trait argument target
  let f ← i.function? name
  f.call? s args

/-- The value of a constant of an implementation. -/
def const? (trait : String) (argument : Option Path) (target : Path) (name : String) :
    Option (Value X) := do
  let i ← s.code.implementation? trait argument target
  let e ← i.const? name
  e.eval? s []

/-- The tag of a value of the enum. -/
def tagOf? (e : Value X) : Option (Value X) := s.call? "Matchable" none s.enum "tag" [e]

/-- All tags. -/
def tags? : Option (Value X) := s.const? "Registry" none s.enum "TAGS"

/-- The name of a tag. -/
def nameOf? (t : Value X) : Option (Value X) := s.call? "Tag" none s.tagEnum "name" [t]

/-- A function of the marker of a variant as a pattern. -/
def ofMarker? (v : ItemVariant) (name : String) (args : List (Value X)) : Option (Value X) :=
  s.call? "Pattern" s.enum (s.marker v) name (.constant (.marker v.ident.text) :: args)

/-- The tag that a marker names. -/
def markerTag? (v : ItemVariant) : Option (Value X) := s.ofMarker? v "tag" []

/-- Looks at the payload of a value. -/
def peek? (v : ItemVariant) (e : Value X) : Option (Value X) := s.ofMarker? v "peek" [e]

/-- Takes the payload of a value. -/
def take? (v : ItemVariant) (e : Value X) : Option (Value X) := s.ofMarker? v "take" [e]

/-- The type of the payloads of a variant. -/
def payloadType? (v : ItemVariant) : Option TypeExpr := do
  let i ← s.code.implementation? "Pattern" s.enum (s.marker v)
  i.type? "Payload"

/-- The tag of a variant. -/
def variantTag? (v : ItemVariant) : Option (Value X) :=
  s.const? "Variant" s.enum (s.marker v) "TAG"

/-- The value of a variant with a payload. -/
def inject? (v : ItemVariant) (x : Value X) : Option (Value X) :=
  s.call? "Variant" s.enum (s.marker v) "inject" [x]

end Scope

/-! ## Types -/

/-- Which payloads the types of fields have. A type is read where `Self` stands for a path. -/
structure Typing (X : Type) where
  Holds : (self : Path) → Words → X → Prop
  /-- Apart from `Self` the place does not matter. -/
  holds_iff : ∀ {ws : Words} (a b : Path) (x : X), "Self" ∉ ws → (Holds a ws x ↔ Holds b ws x)

/-- Whether a value has the type of a payload. -/
def TypeExpr.HasValue (typing : Typing X) (self : Path) : TypeExpr → Value X → Prop
  | .unit, .unit => True
  | .words ws, .payload x => typing.Holds self ws x
  | _, _ => False

/-- The values of an enum whose variants carry nothing or one field. -/
inductive Item.HasValue (typing : Typing X) (item : Item) : Value X → Prop
  | constant {v : ItemVariant} : v ∈ item.variants → v.fields = .unit →
      HasValue typing item (.constant (.variant v))
  | applied {v : ItemVariant} {ws : Words} {x : X} : v ∈ item.variants → v.fields = .unnamed [ws] →
      typing.Holds ⟨[item.ident], false⟩ ws x →
      HasValue typing item (.applied (.variant v) (.payload x))

/-- The payloads of a variant: the values of the type that its marker declares. -/
def Scope.IsPayload (s : Scope) (typing : Typing X) (v : ItemVariant) (x : Value X) : Prop :=
  ∃ t, s.payloadType? v = some t ∧ t.HasValue typing (s.marker v) x

end TagDispatch.Derive
