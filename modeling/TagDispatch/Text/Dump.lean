/-!
# Dumps

A dump is the tree of a value as it is shown to people. It has two renderings: on one line, and with
one field or element a line, each line break inside a field followed by four more spaces.
-/

namespace TagDispatch

/-- The tree of a shown value. -/
inductive Dump where
  /-- Text that stands as it is. -/
  | atom (text : String)
  /-- A name and its fields; `partly` marks a value of which not every field is shown. -/
  | record (name : String) (fields : List (String × Dump)) (partly : Bool)
  /-- A name and its parts; without a name it is a plain tuple. -/
  | tuple (name : String) (parts : List Dump)
  /-- Elements between brackets. -/
  | list (elements : List Dump)

namespace Dump

/-- The rendering of parts between parentheses: a plain tuple of one part ends in a comma. -/
def parens (name : String) (parts : List String) : String :=
  match parts with
  | [] => if name = "" then "()" else name
  | [part] => name ++ "(" ++ part ++ (if name = "" then ",)" else ")")
  | _ => name ++ "(" ++ ", ".intercalate parts ++ ")"

/-- The rendering of fields between braces. -/
def braces (name : String) (fields : List String) : String :=
  match fields with
  | [] => name
  | _ => name ++ " \x7b " ++ ", ".intercalate fields ++ " \x7d"

mutual

/-- The rendering on one line. -/
def compact : Dump → String
  | atom text => text
  | record name fields partly =>
    braces name (compactFields fields ++ if partly then [".."] else [])
  | tuple name parts => parens name (compactAll parts)
  | list elements => "[" ++ ", ".intercalate (compactAll elements) ++ "]"

/-- The renderings of several dumps. -/
def compactAll : List Dump → List String
  | [] => []
  | dump :: rest => compact dump :: compactAll rest

/-- The renderings of fields, each after its name. -/
def compactFields : List (String × Dump) → List String
  | [] => []
  | (name, dump) :: rest => (name ++ ": " ++ compact dump) :: compactFields rest

end

/-- Four spaces after each line break of a text. -/
def deepen (text : String) : String :=
  String.ofList (text.toList.flatMap fun c => if c = '\n' then ['\n', ' ', ' ', ' ', ' '] else [c])

/-- One line of a block: the text, indented, and its line break. -/
def line (text : String) : String := "    " ++ deepen text ++ "\n"

/-- Lines between an opening and a closing text. -/
def block (opening : String) (lines : List String) (closing : String) : String :=
  opening ++ "\n" ++ String.join (lines.map line) ++ closing

mutual

/-- The rendering over several lines. -/
def pretty : Dump → String
  | atom text => text
  | record name fields partly =>
    match prettyFields fields ++ if partly then [".."] else [] with
    | [] => name
    | lines => block (name ++ " \x7b") lines "\x7d"
  | tuple name parts =>
    match prettyAll parts with
    | [] => if name = "" then "()" else name
    | lines => block (name ++ "(") lines ")"
  | list elements =>
    match prettyAll elements with
    | [] => "[]"
    | lines => block "[" lines "]"

/-- The renderings of several dumps, each with its comma. -/
def prettyAll : List Dump → List String
  | [] => []
  | dump :: rest => (pretty dump ++ ",") :: prettyAll rest

/-- The renderings of fields, each after its name and with its comma. -/
def prettyFields : List (String × Dump) → List String
  | [] => []
  | (name, dump) :: rest => (name ++ ": " ++ pretty dump ++ ",") :: prettyFields rest

end

/-- A yes-or-no value. -/
def bool (b : Bool) : Dump := atom (if b then "true" else "false")

end Dump

/-- Values with a dump. -/
class Shown (α : Type) where
  dump : α → Dump

export Shown (dump)

end TagDispatch
