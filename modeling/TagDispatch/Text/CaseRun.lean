/-!
# Runs of letters with one distance to their other case

Alphabets place the two cases of their letters at a fixed distance, so a case table is a list of
runs. A run names every letter, or every second letter, between its ends.
-/

namespace TagDispatch.Text

/-- The letters `first`, `first + step`, … up to `last`, each `distance` from its other case. -/
structure CaseRun where
  first : Nat
  last : Nat
  step : Nat
  distance : Int

/-- The letters that the run names. -/
def CaseRun.contains (run : CaseRun) (code : Nat) : Bool :=
  run.first ≤ code && code ≤ run.last && (code - run.first) % run.step == 0

/-- The other case of a letter, if a run names it. -/
def CaseRun.lookup (runs : List CaseRun) (code : Nat) : Option Nat :=
  (runs.find? (·.contains code)).map fun run => ((code : Int) + run.distance).toNat

end TagDispatch.Text
