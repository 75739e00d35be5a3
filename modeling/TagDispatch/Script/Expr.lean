import TagDispatch.Act
import TagDispatch.Script.Datum

/-!
# Expressions and code

The bodies of handlers, guards and conditions. An expression sees the payload and counters that
outlive the call; it may panic. Calling a piece of code is noted in the log.
-/

namespace TagDispatch.Script

/-- An expression over a payload and the counters. -/
inductive Expr where
  | const (d : Datum)
  | payload
  /-- An element of a payload that is a list. -/
  | field (n : Nat)
  | len (e : Expr)
  /-- A sum of numbers of 64 bits, which wraps around. -/
  | add (a b : Expr)
  | lt (a b : Expr)
  | eq (a b : Expr)
  /-- Yes unless the operand is `true`. -/
  | not (e : Expr)
  | list (elements : List Expr)
  /-- Adds to a counter and gives its new value. -/
  | bump (cell : String) (step : Int)
  | panic (text : String)

/-- What running code notes. -/
inductive Trace where
  /-- A guard is about to be asked. -/
  | guard (id : String) (payload : Datum)
  /-- A handler was called with a payload. -/
  | call (id : String) (payload : Datum)
  /-- A handler was called without an argument. -/
  | plainCall (id : String)
  /-- The else-if with this index is being built. -/
  | build (index : Nat)

/-- Counters by name; one that is not listed stands at zero. -/
abbrev Cells := List (String × Int)

/-- Computations of scripts. -/
abbrev Effect := Act Trace Cells

/-- The sum of two numbers of 64 bits, which wraps around. -/
def addInt64 (a b : Int) : Int := (a + b).bmod 0x10000000000000000

/-- Adds to a counter and gives its new value. -/
def Cells.bump (cell : String) (step : Int) : Cells → Int × Cells
  | [] => (addInt64 0 step, [(cell, addInt64 0 step)])
  | (name, n) :: rest =>
    if name = cell then (addInt64 n step, (name, addInt64 n step) :: rest)
    else
      let bumped := Cells.bump cell step rest
      (bumped.1, (name, n) :: bumped.2)

namespace Expr

mutual

/-- The value of an expression, operands from left to right. -/
def eval (p : Datum) : Expr → Effect Datum
  | const d => pure d
  | payload => pure p
  | field n => pure (p.element n)
  | len e => do
    let d ← eval p e
    pure (.int d.length)
  | add a b => do
    let x ← eval p a
    let y ← eval p b
    pure (.int (addInt64 x.toInt64 y.toInt64))
  | lt a b => do
    let x ← eval p a
    let y ← eval p b
    pure (.bool (x.toInt64 < y.toInt64))
  | eq a b => do
    let x ← eval p a
    let y ← eval p b
    pure (.bool (x.same y))
  | not e => do
    let d ← eval p e
    pure (.bool !d.isTrue)
  | list elements => do
    let ds ← evalAll p elements
    pure (.list ds)
  | bump cell step => do
    let n ← Act.update (Cells.bump cell step)
    pure (.int n)
  | panic text => Act.panic text

/-- The values of several expressions, from left to right. -/
def evalAll (p : Datum) : List Expr → Effect (List Datum)
  | [] => pure []
  | e :: rest => do
    let d ← eval p e
    let ds ← evalAll p rest
    pure (d :: ds)

end

end Expr

/-- A named piece of code. -/
structure Code where
  id : String
  body : Expr

namespace Code

/-- Calls a handler with a payload. -/
def call (c : Code) (p : Datum) : Effect Datum := do
  Act.write (.call c.id p)
  c.body.eval p

/-- Calls a handler without an argument. -/
def plainCall (c : Code) : Effect Datum := do
  Act.write (.plainCall c.id)
  c.body.eval .null

/-- Asks a guard about a payload. -/
def ask (c : Code) (p : Datum) : Effect Bool := do
  Act.write (.guard c.id p)
  let d ← c.body.eval p
  pure d.isTrue

end Code

end TagDispatch.Script
