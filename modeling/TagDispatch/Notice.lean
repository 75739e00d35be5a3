/-!
# Notices

What the dispatcher itself writes to a log: which way a value took through a table, and each defect
before it ends the run.
-/

namespace TagDispatch

/-- A notice of the dispatcher. -/
inductive Notice where
  /-- The tag has an entry, whose handler runs next. -/
  | dispatch (tag : String)
  /-- The tag has no entry, and the fallback runs next. -/
  | fallback (tag : String)
  /-- The tag has no entry, there is no fallback, and nothing runs. -/
  | absent (tag : String)
  /-- A defect with this text ends the run. -/
  | defect (text : String)
deriving DecidableEq

namespace Notice

/-- How loud a notice is: defects are errors, the rest is traced. -/
def level : Notice → String
  | defect _ => "ERROR"
  | _ => "TRACE"

/-- The name of the event. -/
def event : Notice → String
  | dispatch _ => "match.dispatch"
  | fallback _ => "match.fallback"
  | absent _ => "match.absent"
  | defect _ => "match.defect"

/-- What the notice is about, by name. -/
def subject : Notice → String × String
  | dispatch tag | fallback tag | absent tag => ("tag", tag)
  | defect text => ("error", text)

end Notice

end TagDispatch
