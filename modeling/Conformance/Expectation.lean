import Conformance.Text.Blank

/-!
# Expectations

The first line of a test file says what the test expects.  `ERROR code` asks for a failure of the
compiler with that code, any other text is the last line that the built program has to print.  The
line may be a comment and may hold statement terminators, neither of which counts.
-/

namespace Conformance

inductive Expectation where
  | error (code : String)
  | value (text : String)
  deriving DecidableEq, Repr

namespace Expectation

protected def toString : Expectation → String
  | error code => "ERROR " ++ code
  | value text => text

instance : ToString Expectation := ⟨Expectation.toString⟩

end Expectation

/-- Why a line is no header. -/
inductive HeaderError where
  | empty
  deriving DecidableEq, Repr

def HeaderError.message : HeaderError → String
  | empty => "header is empty after removing comment markers"

namespace Header

/-- The word that opens the expectation of a compiler failure. -/
def errorWord : List Char := "ERROR".toList

def terminator : Char := ';'

/-- Drops one comment marker from the front. -/
def dropMarker : List Char → List Char
  | '/' :: '/' :: rest => rest
  | s => s

/-- The line without its comment marker, its terminators and the blanks around it. -/
def clean (line : List Char) : List Char :=
  Text.trim ((dropMarker (Text.trimStart line)).filter (· != terminator))

/-- The expectation that a cleaned line states. -/
def read (text : List Char) : Except HeaderError Expectation :=
  match Text.words text with
  | [] => .error .empty
  | [_] => .ok (.value (String.ofList text))
  | keyword :: code :: _ =>
      if keyword = errorWord then .ok (.error (String.ofList code))
      else .ok (.value (String.ofList text))

end Header

/-- Reads the expectation that a header line states. -/
def Expectation.ofHeader (line : String) : Except HeaderError Expectation :=
  Header.read (Header.clean line.toList)

end Conformance
