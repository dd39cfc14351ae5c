import Conformance.Fault
import Conformance.Report.Rendering

/-!
# Diagnostics

The full account of a fault: its code, its message, what lies behind it, and what to do about it.
-/

namespace Conformance

namespace Report

/-- A line without the spaces at its end. -/
def withoutTail (line : List Char) : List Char :=
  (line.reverse.dropWhile (· == ' ')).reverse

/-- A text behind a mark, its further lines behind another one.  No line has spaces at its end,
except for those of its mark. -/
def markedLines (first further text : String) : List String :=
  let put (mark : String) (line : List Char) : String := mark ++ String.ofList (withoutTail line)
  match Text.splitWhen (· == '\n') text.toList with
  | [] => []
  | line :: rest => put first line :: rest.map (put further)

end Report

/-- The lines of the account of a fault. -/
def Fault.account (f : Fault) : List String :=
  [f.code, ""] ++ Report.markedLines "  × " "  │ " f.message ++
    ((f.cause?.map (Report.markedLines "  ╰─▶ " "      ")).getD []) ++
    ((f.help?.map (Report.markedLines "  help: " "        ")).getD [])

def Fault.diagnostic (f : Fault) : String := Report.unlines f.account

end Conformance
