import Conformance.Expectation
import Conformance.Fault
import Conformance.Text.Utf8

/-!
# Annotations

The annotation of a test file is its first line.  Nothing after it is looked at, so it alone has to
be text.
-/

namespace Conformance

namespace Annotation

def lineFeed : UInt8 := 0x0A

/-- The first line with the line feed that ends it. -/
def firstLine (contents : Bytes) : Bytes :=
  contents.takeWhile (· != lineFeed) ++ (contents.dropWhile (· != lineFeed)).take 1

def isLineEnd (c : Char) : Bool := c == '\n' || c == '\r'

/-- The line without the line ends behind it. -/
def stripEnd (line : List Char) : List Char :=
  (line.reverse.dropWhile isLineEnd).reverse

/-- The annotation of a file; an empty file has none. -/
def ofContents (contents : Bytes) : Except IoError (Option String) :=
  if contents.isEmpty then .ok none
  else match Text.Utf8.decode? (firstLine contents) with
    | none => .error .notText
    | some line => .ok (some (String.ofList (stripEnd line)))

end Annotation

/-- The expectation stated by the file at `path`, from what reading the file gave. -/
def Expectation.ofFile (path : Path) (contents : Except IoError Bytes) :
    Except Fault Expectation :=
  match contents.bind Annotation.ofContents with
  | .error cause => .error (.expectation path ("cannot read file: " ++ cause.message))
  | .ok none => .error (.expectation path "file is empty")
  | .ok (some line) =>
      match Expectation.ofHeader line with
      | .error e => .error (.expectation path e.message)
      | .ok expectation => .ok expectation

end Conformance
