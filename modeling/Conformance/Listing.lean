import Conformance.Annotation
import Conformance.Corpus

/-!
# Listings

A listing shows every test with the expectation that its file states, or with what is wrong with the
file.  Nothing is compiled for it.
-/

namespace Conformance

structure ListedSuite where
  name : String
  /-- The tests in order, each with what reading its expectation gave. -/
  tests : List (Path × Except Fault Expectation)

namespace ListedSuite

/-- Reads the expectations of a suite's tests. -/
def ofSuite (contents : Path → Except IoError Bytes) (s : Suite) : ListedSuite :=
  ⟨s.name, s.cases.map fun c => (c.path, Expectation.ofFile c.path (contents c.path))⟩

def headline (s : ListedSuite) : String :=
  s.name ++ " (" ++ toString s.tests.length ++ " tests)"

/-- An expectation as it is shown, and a fault in angle brackets. -/
def shown : Except Fault Expectation → String
  | .ok expectation => toString expectation
  | .error fault => "<" ++ fault.message ++ ">"

def testLine (test : Path × Except Fault Expectation) : String :=
  "  " ++ test.1.text ++ ": " ++ shown test.2

def lines (s : ListedSuite) : List String := s.headline :: s.tests.map testLine

/-- Every test of the suite states an expectation. -/
def isSound (s : ListedSuite) : Bool := s.tests.all fun test => test.2.isOk

end ListedSuite

abbrev Listing := List ListedSuite

namespace Listing

def ofSuites (contents : Path → Except IoError Bytes) (suites : List Suite) : Listing :=
  suites.map (ListedSuite.ofSuite contents)

def lines (l : Listing) : List String := l.flatMap ListedSuite.lines

def isSound (l : Listing) : Bool := l.all ListedSuite.isSound

end Listing

end Conformance
