import TagDispatch.Derive.Emitted

/-!
# Lexemes of emitted declarations

Emitted declarations are written as lexemes: words, which include the marks, and texts, which stand
between quotes with nothing escaped.
-/

namespace TagDispatch.Derive

/-- A word or a text. -/
inductive Lexeme where
  | word (w : String)
  | text (s : String)
deriving DecidableEq

/-- A lexeme as it is written. -/
def Lexeme.spelling : Lexeme → String
  | word w => w
  | text s => "\"" ++ s ++ "\""

/-- Words one after the other. -/
def ofWords (ws : List String) : List Lexeme := ws.map .word

/-- Lexemes between two words. -/
def between (opening closing : String) (inner : List Lexeme) : List Lexeme :=
  .word opening :: inner ++ [.word closing]

/-- Lexemes between braces. -/
def braced (inner : List Lexeme) : List Lexeme := between "\x7b" "\x7d" inner

/-- Lexemes between parentheses. -/
def parenthesized (inner : List Lexeme) : List Lexeme := between "(" ")" inner

/-- Groups of lexemes with a comma between them. -/
def separated : List (List Lexeme) → List Lexeme
  | [] => []
  | [group] => group
  | group :: rest => group ++ .word "," :: separated rest

/-- Groups of lexemes with a comma after each. -/
def terminated (groups : List (List Lexeme)) : List Lexeme :=
  groups.flatMap fun group => group ++ [.word ","]

namespace Path

/-- The words of the names after the first. -/
def tailWords : List Ident → List String
  | [] => []
  | i :: rest => "::" :: i.spelling :: tailWords rest

/-- The lexemes of a path. -/
def lexemes (p : Path) : List Lexeme :=
  ofWords <|
    if p.rooted then tailWords p.segments
    else
      match p.segments with
      | [] => []
      | i :: rest => i.spelling :: tailWords rest

end Path

/-- The lexemes of a path of plain names from the root of all names. -/
def rootedWords (names : List String) : List Lexeme :=
  ofWords (names.flatMap fun name => ["::", name])

/-- The lexemes of a type. -/
def TypeExpr.lexemes : TypeExpr → List Lexeme
  | path p => p.lexemes
  | unit => parenthesized []
  | words ws => ofWords ws
  | ref lifetime target => ofWords ["&", lifetime] ++ target.lexemes
  | slice element => between "[" "]" element.lexemes
  | option value => rootedWords ["core", "option", "Option"] ++ between "<" ">" value.lexemes
  | result value error =>
    rootedWords ["core", "result", "Result"] ++
      between "<" ">" (value.lexemes ++ .word "," :: error.lexemes)

/-- The lexemes of a pattern. -/
def MatchPattern.lexemes : MatchPattern → List Lexeme
  | path p => p.lexemes
  | anyFields p => p.lexemes ++ braced (ofWords [".."])
  | field p n => p.lexemes ++ parenthesized (ofWords [n])
  | wildcard => ofWords ["_"]
  | name n => ofWords [n]

/-- The lexemes of an expression. -/
def Expr.lexemes : Expr → List Lexeme
  | path p => p.lexemes
  | text s => [.text s]
  | unit => parenthesized []
  | name n => ofWords [n]
  | ref target => .word "&" :: target.lexemes
  | apply function argument => function.lexemes ++ parenthesized argument.lexemes
  | paths ps => between "[" "]" (separated (ps.map Path.lexemes))

/-- The lexemes of what a function returns. -/
def Body.lexemes : Body → List Lexeme
  | expr e => e.lexemes
  | matchOn subject arms =>
    ofWords ["match", subject] ++
      braced (terminated (arms.map fun (p, e) => p.lexemes ++ .word "=>" :: e.lexemes))

/-- The lexemes of a parameter. -/
def Param.lexemes : Param → List Lexeme
  | self => ofWords ["self"]
  | selfRef => ofWords ["&", "self"]
  | named name t => ofWords [name, ":"] ++ t.lexemes
  | unit => ofWords ["(", ")", ":", "(", ")"]

/-- The lexemes of an attribute. -/
def attributeLexemes (inner : List Lexeme) : List Lexeme :=
  .word "#" :: between "[" "]" inner

/-- The lexemes of documentation. -/
def docLexemes (doc : String) : List Lexeme :=
  attributeLexemes (ofWords ["doc", "="] ++ [.text doc])

/-- The lexemes that ask for traits to be derived. -/
def deriveLexemes (traits : List String) : List Lexeme :=
  attributeLexemes (.word "derive" :: parenthesized (separated (traits.map fun t => ofWords [t])))

/-- The lexemes that allow arms which are never reached. -/
def allowLexemes : List Lexeme :=
  attributeLexemes (.word "allow" :: parenthesized (ofWords ["unreachable_patterns"]))

/-- The lexemes of a function. -/
def Function.lexemes (f : Function) : List Lexeme :=
  (if f.lenient then allowLexemes else []) ++
    ofWords ["fn", f.name] ++ f.lifetime.elim [] (fun l => ofWords ["<", l, ">"]) ++
    parenthesized (separated (f.params.map Param.lexemes)) ++ .word "->" :: f.result.lexemes ++
    braced f.body.lexemes

/-- The lexemes of a member. -/
def Member.lexemes : Member → List Lexeme
  | type name t => ofWords ["type", name, "="] ++ t.lexemes ++ [.word ";"]
  | const name t value =>
    ofWords ["const", name, ":"] ++ t.lexemes ++ .word "=" :: value.lexemes ++ [.word ";"]
  | function f => f.lexemes

/-- The lexemes of an implementation. -/
def Implementation.lexemes (i : Implementation) : List Lexeme :=
  attributeLexemes (ofWords ["automatically_derived"]) ++ .word "impl" :: i.trait.lexemes ++
    i.argument.elim [] (fun a => between "<" ">" a.lexemes) ++ .word "for" :: i.target.lexemes ++
    braced (i.members.flatMap Member.lexemes)

/-- The lexemes of the module. -/
def Emitted.moduleLexemes (e : Emitted) : List Lexeme :=
  docLexemes e.doc ++ ofWords e.visibility ++ ofWords ["mod", e.module.spelling] ++
    braced (
      docLexemes " The tags of the registry." ++
      deriveLexemes ["Debug", "Clone", "Copy", "PartialEq", "Eq", "Hash"] ++
      ofWords ["pub", "enum", "Tag"] ++
      braced (terminated (e.tags.map fun t => docLexemes t.doc ++ ofWords [t.ident.spelling])) ++
      e.markers.flatMap fun m =>
        docLexemes m.doc ++ deriveLexemes ["Debug", "Clone", "Copy", "Default"] ++
          ofWords ["pub", "struct", m.ident.spelling, ";"])

/-- The lexemes of all declarations. -/
def Emitted.lexemes (e : Emitted) : List Lexeme :=
  e.moduleLexemes ++ e.implementations.flatMap Implementation.lexemes

/-- All declarations as a text. -/
def Emitted.render (e : Emitted) : String :=
  " ".intercalate (e.lexemes.map Lexeme.spelling)

end TagDispatch.Derive
