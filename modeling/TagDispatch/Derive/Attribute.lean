import TagDispatch.Derive.Token

/-!
# Attributes

An attribute `tagmatch` holds a list of items, of which `module = name` is the only kind. Reading
stops at the first fault.

That `module = name` is the only kind is the rule of the derivation. How a list goes on from item to
item, what may begin an item and which words are names is settled by the package `syn`, whose
reading of nested items `moduleNames` follows together with that rule. Results about attributes rest
on the laws of `ReadsItems` and on nothing else of it.
-/

namespace TagDispatch.Derive

/-- What is wrong with an attribute. -/
inductive AttributeError where
  /-- The attribute stands without a list. -/
  | bare
  /-- The attribute has a value in place of a list. -/
  | assigned
  /-- The list ends where the rest of an item is needed. -/
  | noItem
  /-- An item begins with a literal. -/
  | literalItem
  /-- An item begins with something else that is no name. -/
  | otherItem
  /-- A path goes on with something that is no name, or does not go on. -/
  | noSegment (atEnd : Bool)
  /-- An item has another name. -/
  | unsupported
  | noEquals
  /-- A reserved word in place of a name. -/
  | keyword (word : String)
  /-- Something else in place of a name, or nothing. -/
  | noName (atEnd : Bool)
  | noComma
deriving DecidableEq

/-- A complaint that says so if it is the end of the list that is to blame. -/
def complaint (text : String) (atEnd : Bool) : String :=
  if atEnd then "unexpected end of input, " ++ text else text

/-- The sentence that reports the fault. -/
def AttributeError.message : AttributeError → String
  | bare => "expected attribute arguments in parentheses: #[tagmatch(...)]"
  | assigned => "expected parentheses: #[tagmatch(...)]"
  | noItem => complaint "expected nested attribute" true
  | literalItem => "unexpected literal in nested attribute, expected ident"
  | otherItem => "unexpected token in nested attribute, expected ident"
  | noSegment atEnd => complaint "expected ident" atEnd
  | unsupported => "unsupported tagmatch attribute"
  | noEquals => "expected `=`"
  | keyword word => "expected identifier, found keyword `" ++ word ++ "`"
  | noName atEnd => complaint "expected identifier" atEnd
  | noComma => "expected `,`"

/-- The fault of an item `module` after its name. -/
def valueFault : List Token → AttributeError
  | .mark '=' _ :: .ident i :: _ => .keyword i.spelling
  | .mark '=' _ :: rest => .noName rest.isEmpty
  | _ => .noEquals

/-- The fault of an item after the first name of its path; `plain` says whether that was `module`
alone so far. -/
def pathFault (plain : Bool) : List Token → AttributeError
  | .mark ':' true :: .mark ':' _ :: .ident _ :: rest => pathFault false rest
  | .mark ':' true :: .mark ':' _ :: rest => .noSegment rest.isEmpty
  | rest => if plain then valueFault rest else .unsupported

/-- The fault of an item whose path begins here; `rooted` says whether `::` stands before it. -/
def itemFault (rooted : Bool) : List Token → AttributeError
  | [] => .noItem
  | .ident i :: rest => pathFault (!rooted && i = ⟨"module", false⟩) rest
  | .text _ :: _ | .literal _ _ :: _ => .literalItem
  | .mark '-' _ :: .literal _ true :: _ => .literalItem
  | _ => .otherItem

/-- The fault of tokens that do not begin with an item. -/
def fault : List Token → AttributeError
  | .mark ':' true :: .mark ':' _ :: rest => itemFault true rest
  | tokens => itemFault false tokens

/-- The names that the items of a list give to the module, in order, read as `syn` reads nested
items. -/
def moduleNames : List Token → Except AttributeError (List Ident)
  | [] => .ok []
  | .ident key :: .mark mark joint :: .ident value :: rest =>
    if key = ⟨"module", false⟩ ∧ mark = '=' ∧ ¬isReserved value then
      match rest with
      | [] => .ok [value]
      | .mark ',' _ :: more => (moduleNames more).map (value :: ·)
      | _ => .error .noComma
    else .error (fault (.ident key :: .mark mark joint :: .ident value :: rest))
  | tokens => .error (fault tokens)

/-- The form of an attribute after its path. -/
inductive AttributeForm where
  | bare
  | assigned
  | list (tokens : List Token)
deriving DecidableEq

/-- An attribute. -/
structure Attribute where
  path : List Token
  form : AttributeForm
deriving DecidableEq

/-- The names that an attribute gives to the module if `read` reads its list; attributes of other
tools give none. -/
def Attribute.moduleNames (read : List Token → Except AttributeError (List Ident))
    (a : Attribute) : Except AttributeError (List Ident) :=
  if a.path = [.ident ⟨"tagmatch", false⟩] then
    match a.form with
    | .bare => .error .bare
    | .assigned => .error .assigned
    | .list tokens => read tokens
  else .ok []

end TagDispatch.Derive
