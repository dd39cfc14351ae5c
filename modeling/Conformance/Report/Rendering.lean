import Conformance.Report
import Conformance.Text.Json

/-!
# Rendering of reports

A report is printed as plain text, as text with coloured counts, or as a JSON object.
-/

namespace Conformance

/-- When the counts are coloured. -/
inductive ColorMode where
  | auto
  | always
  | never
  deriving DecidableEq, Repr

namespace ColorMode

/-- Unless something else is asked for, the counts are coloured on a terminal, but not if the environment
forbids it. -/
def isEnabled (mode : ColorMode) (isTerminal isForbidden : Bool) : Bool :=
  match mode with
  | always => true
  | never => false
  | auto => isTerminal && !isForbidden

end ColorMode

inductive ReportFormat where
  | text
  | json
  deriving DecidableEq, Repr

namespace Report

/-- Lines of text, each ended by a line feed. -/
def unlines (lines : List String) : String :=
  lines.foldr (fun line rest => line ++ "\n" ++ rest) ""

def toText (r : Report) : String := unlines r.lines

instance : ToString Report := ⟨toText⟩

inductive Color where
  | green
  | red
  deriving DecidableEq, Repr

/-- The escape sequence that switches to bold text of a colour. -/
def Color.escape : Color → String
  | green => "\x1b[1;32m"
  | red => "\x1b[1;31m"

/-- The escape sequence that ends coloured text. -/
def resetEscape : String := "\x1b[0m"

def paint (color : Color) (line : String) : String :=
  color.escape ++ line ++ resetEscape

/-- The second count is green when nothing failed. -/
def failedColor (r : Report) : Color :=
  if r.isSuccess then .green else .red

def toColoredText (r : Report) : String :=
  unlines (paint .green r.passedLine :: paint r.failedColor r.failedLine :: r.failures)

/-- The members of the object stand in the order of their names. -/
def toJson (r : Report) : Text.Json :=
  .object [("failed", .number r.failed), ("failures", .array (r.failures.map .string)),
    ("passed", .number r.passed), ("total", .number r.total)]

def render (r : Report) (format : ReportFormat) (isColored : Bool) : String :=
  match format with
  | .json => r.toJson.pretty ++ "\n"
  | .text => if isColored then r.toColoredText else r.toText

end Report

end Conformance
