import FieldOcr.Validation.Result

/-!
# Run options

Options that belong to a run and not to its request.  Times are counted in
milliseconds.
-/

namespace FieldOcr

/-- How long to wait for a task. -/
structure PollPolicy where
  /-- The time between an answer and the next query. -/
  interval : Nat := 2000
  /-- The time after which waiting is given up, if it is limited at all. -/
  timeout : Option Nat := some 600000
  deriving DecidableEq, Repr

/-- Options that belong to a run. -/
structure RunOptions where
  /-- How long to wait for the task. -/
  poll : PollPolicy := { }
  /-- The greatest size of the result, in bytes. -/
  sizeLimit : Nat := Validation.defaultSizeLimit
  /-- The file of the result schema, in place of the usual one. -/
  schemaPath : Option String := none
  deriving DecidableEq, Repr

end FieldOcr
