import TagDispatch.Ident

/-!
# Emitted declarations

The declarations that a registry is expanded to, as a tree: a module with the enum of tags and the
markers, and implementations whose functions return an expression or match on a name.
-/

namespace TagDispatch.Derive

/-- A path, from the root of all names or from where it stands. -/
structure Path where
  segments : List Ident
  rooted : Bool := false
deriving DecidableEq

/-- A type. -/
inductive TypeExpr where
  | path (p : Path)
  | unit
  /-- A type of the item, word by word. -/
  | words (ws : List String)
  | ref (lifetime : String) (target : TypeExpr)
  | slice (element : TypeExpr)
  | option (value : TypeExpr)
  | result (value error : TypeExpr)
deriving DecidableEq

/-- A pattern of a match. -/
inductive MatchPattern where
  | path (p : Path)
  /-- A variant whatever it carries. -/
  | anyFields (p : Path)
  /-- A variant whose one field gets a name. -/
  | field (p : Path) (name : String)
  | wildcard
  | name (name : String)
deriving DecidableEq

/-- An expression. -/
inductive Expr where
  | path (p : Path)
  | text (s : String)
  | unit
  | name (name : String)
  | ref (target : Expr)
  | apply (function : Path) (argument : Expr)
  | paths (ps : List Path)
deriving DecidableEq

/-- What a function returns. -/
inductive Body where
  | expr (e : Expr)
  | matchOn (subject : String) (arms : List (MatchPattern × Expr))
deriving DecidableEq

/-- A parameter of a function. -/
inductive Param where
  | self
  | selfRef
  | named (name : String) (type : TypeExpr)
  /-- A parameter that carries nothing. -/
  | unit
deriving DecidableEq

/-- A function. -/
structure Function where
  name : String
  params : List Param
  result : TypeExpr
  body : Body
  lifetime : Option String := none
  /-- Whether an arm that is never reached is no fault. -/
  lenient : Bool := false
deriving DecidableEq

/-- A member of an implementation. -/
inductive Member where
  | type (name : String) (type : TypeExpr)
  | const (name : String) (type : TypeExpr) (value : Expr)
  | function (f : Function)
deriving DecidableEq

/-- The implementation of a trait, perhaps for an argument, by a target. -/
structure Implementation where
  trait : Path
  argument : Option Path := none
  target : Path
  members : List Member
deriving DecidableEq

/-- A name with its documentation. -/
structure Documented where
  doc : String
  ident : Ident
deriving DecidableEq

/-- All declarations that a registry is expanded to. -/
structure Emitted where
  /-- The documentation of the module. -/
  doc : String
  visibility : List String
  module : Ident
  tags : List Documented
  markers : List Documented
  implementations : List Implementation
deriving DecidableEq

end TagDispatch.Derive
