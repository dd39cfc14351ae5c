import Conformance.Text.Blank

/-!
# Failure signals

A compiler reports failure by a line whose first word is `FAILED` and whose second word is the code
of the failure.  The first such line decides; without one, compilation succeeded.
-/

namespace Conformance

/-- What the compiler's output says about the compilation. -/
inductive CompileOutcome where
  | success
  | failure (code : String)
  deriving DecidableEq, Repr

/-- A line that announces a failure and names no code. -/
structure MalformedSignal where
  line : String
  deriving DecidableEq, Repr

namespace MalformedSignal

def message (e : MalformedSignal) : String :=
  "malformed failure signal `" ++ e.line ++ "`: no failure code follows FAILED"

end MalformedSignal

namespace Signal

def failureWord : List Char := "FAILED".toList

/-- The words after the failure word, if the line opens with it. -/
def afterFailure (line : String) : Option (List (List Char)) :=
  match Text.words line.toList with
  | [] => none
  | first :: rest => if first = failureWord then some rest else none

end Signal

/-- Reads the outcome from the lines that the compiler printed. -/
def CompileOutcome.ofLines : List String → Except MalformedSignal CompileOutcome
  | [] => .ok .success
  | line :: rest =>
      match Signal.afterFailure line with
      | none => CompileOutcome.ofLines rest
      | some [] => .error ⟨line⟩
      | some (code :: _) => .ok (.failure (String.ofList code))

end Conformance
