import Conformance.Signal

/-!
# Verdicts

How the outcome of a test compares with its expectation.
-/

namespace Conformance

inductive Verdict where
  | pass
  | fail (reason : String)
  deriving DecidableEq, Repr

namespace Verdict

def isPass : Verdict → Bool
  | pass => true
  | fail _ => false

def reason? : Verdict → Option String
  | pass => none
  | fail reason => some reason

protected def toString : Verdict → String
  | pass => "pass"
  | fail reason => "fail: " ++ reason

instance : ToString Verdict := ⟨Verdict.toString⟩

/-- The verdict where the compiler has to fail with the code `expected`. -/
def ofError (expected : String) : CompileOutcome → Verdict
  | .success => fail "expected failure, got none"
  | .failure code =>
      if code = expected then pass
      else fail ("error code mismatch: expected " ++ expected ++ ", got " ++ code)

/-- The verdict where the last line of output has to be `expected`, blanks at its end aside. -/
def ofValue (expected : String) (lines : List String) : Verdict :=
  match lines.getLast? with
  | none => fail ("expected " ++ expected ++ ", got no output")
  | some line =>
      let actual := String.ofList (Text.trimEnd line.toList)
      if actual = expected then pass
      else fail ("expected " ++ expected ++ ", got " ++ actual)

/-- The verdict where the program should have been compiled and the compiler failed. -/
def ofCompileFailure (code : String) : Verdict :=
  fail ("expected success, got compiler failure " ++ code)

end Verdict

end Conformance
