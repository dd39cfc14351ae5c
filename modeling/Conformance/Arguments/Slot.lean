import Conformance.Report.Rendering
import Conformance.Settings
import Conformance.Text.Decimal

/-!
# What arguments can set

Each argument fills a slot with a text, and each slot has a rule for the texts that it takes.  Six
slots can be filled from the environment as well.
-/

namespace Conformance

/-- Why an argument list is not a request.  Asking for help or for the version is one of the
reasons, but no mistake. -/
inductive ArgumentError where
  | unknownArgument
  /-- Something is given twice, or two things that exclude each other are. -/
  | conflict
  | invalidValue
  | valueValidation
  | tooManyValues
  | invalidSubcommand
  | helpAsked
  | versionAsked
  deriving DecidableEq, Repr

def ArgumentError.exitCode : ArgumentError → Nat
  | helpAsked | versionAsked => 0
  | _ => 2

inductive Slot where
  | testsDir
  | extension
  | compiler
  | build
  | executable
  | timeout
  | color
  | format
  | verbose
  deriving DecidableEq, Repr

namespace Slot

/-- The slots that options with a value fill, by the name of the option. -/
def ofOption? : List Char → Option Slot := fun name =>
  [("extension", extension), ("compiler", compiler), ("build", build),
    ("executable", executable), ("timeout", timeout), ("color", color),
    ("format", format)].findSome? fun (word, slot) =>
      if word.toList = name then some slot else none

/-- The variable of the environment that fills the slot. -/
def variableName? : Slot → Option String
  | testsDir => some "SCTEST_DIR"
  | extension => some "SCTEST_EXTENSION"
  | compiler => some "SCTEST_COMPILER"
  | build => some "SCTEST_BUILD"
  | executable => some "SCTEST_EXECUTABLE"
  | timeout => some "SCTEST_TIMEOUT"
  | color | format | verbose => none

/-- The slots of the corpus, in the order in which the environment is asked for them. -/
def ofCorpus : List Slot := [testsDir, extension]

/-- The slots of a run, in the order in which the environment is asked for them. -/
def ofRun : List Slot := [testsDir, extension, compiler, build, executable, timeout]

end Slot

def ColorMode.parse? : String → Option ColorMode
  | "auto" => some .auto
  | "always" => some .always
  | "never" => some .never
  | _ => none

def ReportFormat.parse? : String → Option ReportFormat
  | "text" => some .text
  | "json" => some .json
  | _ => none

/-- Refuses a text that the slot does not take. -/
def Slot.check (slot : Slot) (text : String) : Except ArgumentError Unit :=
  match slot with
  | .testsDir | .executable => if text.isEmpty then .error .invalidValue else .ok ()
  | .compiler | .build =>
      match CommandLine.parse text with
      | .error _ => .error .valueValidation
      | .ok _ => .ok ()
  | .timeout =>
      match Text.Decimal.readWord64 text.toList with
      | none => .error .valueValidation
      | some _ => .ok ()
  | .color => if (ColorMode.parse? text).isNone then .error .invalidValue else .ok ()
  | .format => if (ReportFormat.parse? text).isNone then .error .invalidValue else .ok ()
  | .extension | .verbose => .ok ()

/-- The slots that have been filled, each with a text that it takes. -/
abbrev Filled := List (Slot × String)

namespace Filled

def has (f : Filled) (slot : Slot) : Bool := f.any (·.1 = slot)

def text? (f : Filled) (slot : Slot) : Option String := f.lookup slot

/-- Fills a slot that is still free. -/
def fill (f : Filled) (slot : Slot) (text : String) : Except ArgumentError Filled := do
  if f.has slot then throw .conflict
  slot.check text
  return f ++ [(slot, text)]

end Filled

end Conformance
