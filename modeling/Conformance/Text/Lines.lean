import Conformance.Text.Blank

/-!
# Lines of captured output

A line ends at a line feed.  Captured output is kept as its lines without the blanks around them;
lines that hold nothing else are dropped.  A carriage return is blank, so it makes no difference
whether a line ends with a line feed alone or with both.
-/

namespace Conformance

namespace Text

def splitLines (s : List Char) : List (List Char) :=
  splitWhen (· == '\n') s

/-- The trimmed lines of `s` that are not empty. -/
def trimmedLines (s : List Char) : List (List Char) :=
  ((splitLines s).map trim).filter (fun l => !l.isEmpty)

/-- Captured output in its normal form. -/
def outputLines (raw : String) : List String :=
  (trimmedLines raw.toList).map String.ofList

end Text

end Conformance
