import TagDispatch.Conditional
import TagDispatch.Script.Session

/-!
# Commands of every world

What a script can do with values and patterns, wherever they come from: look at values, build chains
and tables, dispatch values, and evaluate conditionals. Code of a script receives payloads as data.
-/

namespace TagDispatch.Script

/-- A guard and a handler behind it. -/
structure CaseCode where
  guard : Code
  handler : Code

/-- A further branch of a conditional. -/
inductive BranchCode where
  /-- A plain condition. -/
  | plain (condition : Expr) (body : Code)
  /-- A named value and a named pattern. -/
  | bound (value pattern : String) (body : Code)
  /-- A named value, a named pattern, and a guard on the payload. -/
  | guarded (value pattern : String) (guard body : Code)

/-- What follows the primary branch of a conditional. -/
structure RestCode where
  branches : List BranchCode := []
  /-- Whether a branch is built only when its turn comes. -/
  lazily : Bool := false
  otherwise : Option Code := none

/-- A command; values, patterns, chains and tables are given by their names. -/
inductive Command where
  /-- Describes a value. -/
  | describe (value : String)
  /-- Shows a pattern. -/
  | showPattern (pattern : String)
  /-- Compares the tags of a value and a pattern. -/
  | fits (value pattern : String)
  /-- Looks at a payload. -/
  | peek (value pattern : String)
  /-- Takes a payload for the value, which is used up if that succeeds. -/
  | take (value pattern : String)
  /-- Shows a payload to a handler; the value is lost if the handler panics. -/
  | observe (value pattern : String) (handler : Code)
  /-- Makes a chain, closed if there is a default. -/
  | makeChain (name pattern : String) (cases : List CaseCode) (default : Option Code)
  /-- Makes an open chain of a closed one, which is used up. -/
  | openChain (chain name : String)
  /-- Makes an empty table. -/
  | makeTable (name : String) (lenient : Bool)
  /-- Registers a handler in a table. -/
  | handle (table pattern : String) (handler : Code)
  /-- Registers a chain in a table; the chain is used up. -/
  | handleChain (table chain : String)
  /-- Sets the fallback of a table. -/
  | orElse (table : String) (handler : Code)
  /-- Shows a table. -/
  | showTable (table : String)
  /-- Lists which tags of some patterns a table does not cover. -/
  | uncovered (table : String) (patterns : List String)
  /-- Dispatches a value through a table; both are used up, however the run ends. -/
  | dispatch (table value : String)
  /-- Evaluates a conditional with a plain condition. -/
  | ifHolds (condition : Expr) (body : Code) (rest : RestCode)
  /-- Evaluates a conditional with a pattern and perhaps a guard. -/
  | ifFound (value pattern : String) (guard : Option Code) (body : Code) (rest : RestCode)
  /-- Builds a branch and shows it. -/
  | showBranch (branch : BranchCode)
  /-- Builds a branch and enters its body, or asks its guard, whether or not it fires. -/
  | enter (branch : BranchCode) (askGuard : Bool)
  /-- Completes a conditional of which it is known what fired. -/
  | complete (fired : Option Datum) (otherwise : Option Code)

variable {V T W : Type} [Tagged V T] [DecidableEq T] [Tag T] [Shown T] [Shown V]

namespace AnyChain

/-- The name of the chain's tag and its dump. -/
def report : AnyChain V T → Report
  | closed c => .chain (Tag.name c.tag) (dump c).compact
  | opened c => .chain (Tag.name c.tag) (dump c).compact

end AnyChain

namespace AnyTable

instance : Shown (AnyTable V T) where
  dump
    | .exhaustive t => dump t
    | .lenient t => dump t

/-- The table without entries. -/
def empty (lenient : Bool) : AnyTable V T :=
  if lenient then .lenient .empty else .exhaustive .empty

/-- Registers a handler. -/
def handle (p : Pattern V T Datum) (handler : Code) : AnyTable V T → AnyTable V T
  | exhaustive t => .exhaustive (t.handle p handler.call)
  | lenient t => .lenient (t.handle p handler.call)

/-- Registers a chain; an exhaustive table takes closed chains only. -/
def handleChain? : AnyTable V T → AnyChain V T → Option (AnyTable V T)
  | exhaustive t, .closed c => some (.exhaustive (t.handleChain c))
  | exhaustive _, .opened _ => none
  | lenient t, .closed c => some (.lenient (t.handleChain c.toOpen))
  | lenient t, .opened c => some (.lenient (t.handleChain c))

/-- Sets the fallback. -/
def orElse (handler : Code) : AnyTable V T → AnyTable V T
  | exhaustive t => .exhaustive (t.orElse handler.plainCall)
  | lenient t => .lenient (t.orElse handler.plainCall)

/-- The tags that the table does not cover. -/
def uncovered (tags : List T) : AnyTable V T → List T
  | exhaustive t => t.uncovered tags
  | lenient t => t.uncovered tags

/-- Dispatches a value. -/
def dispatch (v : V) : AnyTable V T → Effect Report
  | exhaustive t => Report.value <$> t.dispatch v
  | lenient t => Report.optional <$> t.dispatch v

end AnyTable

namespace BranchCode

/-- Builds a branch; the building is noted before a plain condition is evaluated. -/
def build (s : Session V T W) (index : Nat) :
    BranchCode → Except Fault (Effect (Branch Trace Cells Datum))
  | plain condition body =>
    pure do
      Act.write (.build index)
      let d ← condition.eval .null
      pure (.plain d.isTrue body.plainCall)
  | bound vName pName body => do
    let v ← s.value vName
    let p ← s.pattern pName
    pure do
      Act.write (.build index)
      pure (.ofPattern v p body.call)
  | guarded vName pName guard body => do
    let v ← s.value vName
    let p ← s.pattern pName
    pure do
      Act.write (.build index)
      pure (.ofGuard v p guard.ask body.call)

/-- Builds branches, numbered from an index on. -/
def buildFrom (s : Session V T W) (index : Nat) :
    List BranchCode → Except Fault (List (Effect (Branch Trace Cells Datum)))
  | [] => pure []
  | branch :: rest => do
    let first ← branch.build s index
    let others ← buildFrom s (index + 1) rest
    pure (first :: others)

end BranchCode

/-- Completes a conditional with or without an else. -/
def withCompletion (otherwise : Option Code)
    (conditional : {O : Type} → Completion Trace Cells Datum O → Effect O) : Effect Report :=
  match otherwise with
  | some f => Report.value <$> conditional (.orElse f.plainCall)
  | none => Report.optional <$> conditional .optional

/-- Runs a conditional whose branches are built one by one or all ahead. -/
def withBranches {O : Type} (lazily : Bool) (branches : List (Effect (Branch Trace Cells Datum)))
    (conditional : List (Effect (Branch Trace Cells Datum)) → Effect O) : Effect O :=
  if lazily then conditional branches
  else do
    let built ← Branch.buildAll branches
    conditional (Branch.built built)

/-- Guarded cases for the payload of a pattern. -/
def casesOf (p : Pattern V T Datum) (cases : List CaseCode) : Cases Trace Cells V T Datum Datum :=
  cases.foldl (fun cs c => cs.add c.guard.ask c.handler.call) { pattern := p }

/-- Reports which of some tags a table does not cover. -/
def Session.reportUncovered (s : Session V T W) (tName : String) (tags : List T) :
    Except Fault (Answer × Session V T W) := do
  let t ← s.table tName
  pure (s.report (.texts ((t.uncovered tags).map fun t => (dump t).compact)))

/-- Carries out a command. -/
def Command.perform (s : Session V T W) : Command → Except Fault (Answer × Session V T W)
  | describe vName => do
    let v ← s.value vName
    pure (s.report (.described (.of v)))
  | showPattern pName => do
    let p ← s.namedPattern pName
    match p.dump with
    | some d =>
      let t := p.pattern.tag
      pure (s.report (.pattern (Tag.name t) (dump t).compact (.of d)))
    | none => .error (.noDump pName)
  | fits vName pName => do
    let v ← s.value vName
    let p ← s.pattern pName
    pure (s.report (.flag (p.fits v)))
  | peek vName pName => do
    let v ← s.value vName
    let p ← s.pattern pName
    pure (s.report (.optional (p.peek? v)))
  | take vName pName => do
    let v ← s.value vName
    let p ← s.pattern pName
    match p.take v with
    | .ok d => pure ({ s with values := s.values.erase vName }.report (.unwrapped d))
    | .error v => pure ({ s with values := s.values.put vName v }.report (.returned (.of v)))
  | observe vName pName handler => do
    let v ← s.value vName
    let p ← s.pattern pName
    let look (d : Datum) : Effect Unit := do
      let _ ← handler.call d
      pure ()
    let s := { s with values := s.values.erase vName }
    pure (s.settle (p.observe v look s.cells) fun v s =>
      (.described (.of v), { s with values := s.values.put vName v }))
  | makeChain name pName cases default => do
    let p ← s.pattern pName
    let cs := casesOf p cases
    let c : AnyChain V T :=
      match default with
      | some d => .closed (cs.close d.call)
      | none => .opened cs.leaveOpen
    pure ({ s with chains := s.chains.put name c }.report c.report)
  | openChain cName name => do
    match ← s.chain cName with
    | .closed c =>
      let c : AnyChain V T := .opened c.toOpen
      pure ({ s with chains := (s.chains.erase cName).put name c }.report c.report)
    | .opened _ => .error (.openChain cName)
  | makeTable name lenient =>
    let t : AnyTable V T := .empty lenient
    pure ({ s with tables := s.tables.put name t }.report (.text (dump t).compact))
  | handle tName pName handler => do
    let t ← s.table tName
    let p ← s.pattern pName
    let t := t.handle p handler
    pure ({ s with tables := s.tables.put tName t }.report (.text (dump t).compact))
  | handleChain tName cName => do
    let t ← s.table tName
    let c ← s.chain cName
    match t.handleChain? c with
    | some t =>
      let s := { s with tables := s.tables.put tName t, chains := s.chains.erase cName }
      pure (s.report (.text (dump t).compact))
    | none => .error (.openChain cName)
  | orElse tName handler => do
    let t ← s.table tName
    let t := t.orElse handler
    pure ({ s with tables := s.tables.put tName t }.report (.text (dump t).compact))
  | showTable tName => do
    let t ← s.table tName
    pure (s.report (.rendering (.of (dump t))))
  | uncovered tName pNames => do
    let ps ← pNames.mapM s.pattern
    s.reportUncovered tName (ps.map (·.tag))
  | dispatch tName vName => do
    let t ← s.table tName
    let v ← s.value vName
    let s := { s with tables := s.tables.erase tName, values := s.values.erase vName }
    pure (s.settle (t.dispatch v s.cells) fun r s => (r, s))
  | ifHolds condition body rest => do
    let branches ← BranchCode.buildFrom s 0 rest.branches
    let act : Effect Report := withCompletion rest.otherwise fun completion => do
      let d ← condition.eval .null
      withBranches rest.lazily branches fun branches =>
        Conditional.plain d.isTrue body.plainCall branches completion
    pure (s.settle (act s.cells) fun r s => (r, s))
  | ifFound vName pName guard body rest => do
    let v ← s.value vName
    let p ← s.pattern pName
    let branches ← BranchCode.buildFrom s 0 rest.branches
    let act : Effect Report := withCompletion rest.otherwise fun completion =>
      withBranches rest.lazily branches fun branches =>
        match guard with
        | some g => Conditional.guarded v p g.ask body.call branches completion
        | none => Conditional.bound v p body.call branches completion
    pure (s.settle (act s.cells) fun r s => (r, s))
  | showBranch branch => do
    let build ← branch.build s 0
    pure (s.settle (build s.cells) fun b s => (.rendering (.of (dump b)), s))
  | enter branch askGuard => do
    let build ← branch.build s 0
    let act : Effect Report := do
      match askGuard, ← build with
      | true, .guarded _ guard _ => Report.guard <$> guard
      | _, b => Report.value <$> b.body
    pure (s.settle (act s.cells) fun r s => (r, s))
  | complete fired otherwise =>
    let act := withCompletion otherwise fun completion => completion.complete fired
    pure (s.settle (act s.cells) fun r s => (r, s))

/-- A step of a script: a command of every world, or one of the world's own. -/
inductive Step (K : Type) where
  | command (c : Command)
  | own (k : K)

/-- Carries out the steps of a script in order. -/
def runSteps {K : Type} (own : Session V T W → K → Except Fault (Answer × Session V T W))
    (s : Session V T W) : List (Step K) → Except Fault (List Answer)
  | [] => pure []
  | step :: rest => do
    let (answer, s) ← match step with
      | .command c => c.perform s
      | .own k => own s k
    let answers ← runSteps own s rest
    pure (answer :: answers)

end TagDispatch.Script
