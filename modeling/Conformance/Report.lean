import Conformance.Verdict

/-!
# Reports

The tally of a run: how many tests passed, how many failed, and a message for each failure in the
order in which they were recorded.
-/

namespace Conformance

structure Report where
  passed : Nat
  failed : Nat
  failures : List String
  deriving DecidableEq, Repr

namespace Report

def empty : Report := ⟨0, 0, []⟩

def total (r : Report) : Nat := r.passed + r.failed

def isSuccess (r : Report) : Bool := r.failed == 0

/-- The message for a failure of `test`. -/
def failureMessage (test reason : String) : String :=
  "ERROR at " ++ test ++ ": " ++ reason

def record (r : Report) (test : String) : Verdict → Report
  | .pass => { r with passed := r.passed + 1 }
  | .fail reason =>
      { r with failed := r.failed + 1, failures := r.failures ++ [failureMessage test reason] }

def passedLine (r : Report) : String := toString r.passed ++ " passed"

def failedLine (r : Report) : String := toString r.failed ++ " failed"

/-- The two counts, then the failures. -/
def lines (r : Report) : List String :=
  r.passedLine :: r.failedLine :: r.failures

end Report

end Conformance
