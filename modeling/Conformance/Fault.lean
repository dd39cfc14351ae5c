import Conformance.Errno
import Conformance.Path
import Conformance.Settings
import Conformance.Signal

/-!
# Faults of a run

What can go wrong besides a test that gives a wrong answer.  Only a corpus that cannot be read ends
a run; every other fault is the failure of the one test in which it arises.
-/

namespace Conformance

inductive Fault where
  /-- The directory of the tests cannot be read. -/
  | corpus (path : Path) (cause : IoError)
  /-- A test file states no expectation. -/
  | expectation (path : Path) (reason : String)
  /-- A command could not be started. -/
  | invocation (command : String) (cause : IoError)
  /-- A command did not finish within the limit. -/
  | overtime (command : String) (limit : Span)
  /-- The compiler announced a failure without its code. -/
  | signal (cause : MalformedSignal)
  /-- The build left no file at the path of the executable. -/
  | missingArtifact (path : Path)
  /-- What an earlier build left at the path of the executable cannot be removed. -/
  | staleArtifact (path : Path) (cause : IoError)
  deriving DecidableEq, Repr

namespace Fault

def message : Fault → String
  | corpus path cause => "cannot read test directory '" ++ path.text ++ "': " ++ cause.message
  | expectation path reason => "malformed expectation in '" ++ path.text ++ "': " ++ reason
  | invocation command cause => "could not run `" ++ command ++ "`: " ++ cause.message
  | overtime command limit =>
      "`" ++ command ++ "` did not finish within " ++ toString limit.seconds ++ "s"
  | signal cause => cause.message
  | missingArtifact path => "build did not produce an executable at '" ++ path.text ++ "'"
  | staleArtifact path cause =>
      "cannot remove stale artifact '" ++ path.text ++ "': " ++ cause.message

/-- Only an unreadable corpus ends the whole run. -/
def isFatal : Fault → Bool
  | corpus .. => true
  | _ => false

/-- The word under which users look up the fault. -/
def code : Fault → String
  | corpus .. => "sctest::discovery"
  | expectation .. => "sctest::expectation"
  | invocation .. => "sctest::invocation"
  | overtime .. => "sctest::timeout"
  | signal _ => "sctest::signal"
  | missingArtifact _ | staleArtifact .. => "sctest::artifact"

/-- What the user can do about it. -/
def help? : Fault → Option String
  | corpus .. => some "pass the corpus root as TESTS_DIR or set SCTEST_DIR"
  | expectation .. =>
      some "the first line must be a comment such as `// 42;` or `// ERROR CODE;`"
  | _ => none

/-- The text of the error that lies behind the fault. -/
def cause? : Fault → Option String
  | corpus _ cause | invocation _ cause | staleArtifact _ cause => some cause.message
  | signal cause => some cause.message
  | expectation .. | overtime .. | missingArtifact _ => none

end Fault

end Conformance
