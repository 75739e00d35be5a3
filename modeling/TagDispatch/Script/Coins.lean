import TagDispatch.Script.Closed
import TagDispatch.TableBody

/-!
# Table literals over coins

Literals of several forms over the coin registry, run on one coin. Every handler answers with its
own name and its payload.
-/

namespace TagDispatch.Script

/-- A form of literal. -/
inductive CoinForm where
  /-- An entry for each coin. -/
  | all
  /-- An entry for each coin and one for everything else. -/
  | allElse
  /-- An entry for the first coin. -/
  | one
  /-- An entry for the last coin and one for everything else. -/
  | oneElse
  /-- Two entries for the last coin. -/
  | twice
  /-- An entry for everything else alone. -/
  | rest

/-- An expression in a literal. -/
inductive CoinExpr where
  /-- The pattern of a coin. -/
  | coin (tag : Sample.coin.Tag)
  | code (code : Code)

namespace CoinExpr

/-- The coin and the handler of an entry. -/
def arm? : CoinExpr × CoinExpr → Option (Sample.coin.Tag × Code)
  | (coin tag, code handler) => some (tag, handler)
  | _ => none

/-- The handler of an entry for everything else. -/
def code? : CoinExpr → Option Code
  | code handler => some handler
  | coin _ => none

end CoinExpr

namespace CoinForm

/-- The form with a name. -/
def ofName? : String → Option CoinForm
  | "all" => some all
  | "all_else" => some allElse
  | "one" => some one
  | "one_else" => some oneElse
  | "twice" => some twice
  | "else" => some rest
  | _ => none

/-- A handler that answers with its name and its payload. -/
def handler (id : String) : Code := ⟨id, .list [.const (.text id), .payload]⟩

/-- An entry for the coin at a place. -/
def arm (place : Fin 3) (id : String) : CoinExpr × CoinExpr := (.coin ⟨place⟩, .code (handler id))

/-- The body of the literal. -/
def body : CoinForm → TableBody (CoinExpr × CoinExpr) CoinExpr
  | all => ⟨[arm 0 "a", arm 1 "b", arm 2 "c"], none⟩
  | allElse => ⟨[arm 0 "a", arm 1 "b", arm 2 "c"], some (.code (handler "e"))⟩
  | one => ⟨[arm 0 "a"], none⟩
  | oneElse => ⟨[arm 2 "c"], some (.code (handler "e"))⟩
  | twice => ⟨[arm 2 "c", arm 2 "c2"], none⟩
  | rest => ⟨[], some (.code (handler "e"))⟩

/-- Whether the literal ends with a comma. -/
def trailing : CoinForm → Bool
  | one | rest => false
  | _ => true

end CoinForm

/-- The table of a literal. -/
def coinTable? (form : CoinForm) (lenient : Bool) :
    Option (AnyTable Sample.coin.Value Sample.coin.Tag) :=
  TableBody.literal? CoinExpr.arm? CoinExpr.code? (.empty lenient)
    (fun table arm => table.handle (Sample.coin.namedPattern arm.1).2.pattern arm.2)
    (fun table f => table.orElse f) (form.body.words form.trailing)

/-- Runs the table of a literal on a coin. -/
def runCoins (form : String) (lenient : Bool) (tag : String) (payload : Datum) :
    Except Fault Answer := do
  let some table := CoinForm.ofName? form >>= (coinTable? · lenient) | .error (.noForm form)
  let s : Session Sample.coin.Value Sample.coin.Tag Unit := { world := () }
  let (_, s) ← (ClosedCommand.of "coin" tag payload).perform s
  let s := { s with tables := s.tables.put "table" table }
  let (answer, _) ← (Command.dispatch "table" "coin").perform s
  pure answer

end TagDispatch.Script
