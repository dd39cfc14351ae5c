import Conformance.Arguments.Scan

/-!
# Requests

What the user asks for: a run of the tests or a listing of them.  The first argument tells which;
what the arguments leave open comes from the environment, and from the standard settings after that.
-/

namespace Conformance

/-- The variables of the environment with their values. -/
abbrev Environment := List (String × String)

/-- Which files are the tests, as it was asked for. -/
structure CorpusRequest where
  testsDir : Path
  extension : String
  deriving DecidableEq, Repr

structure RunRequest where
  corpus : CorpusRequest
  compiler : CommandLine
  build : CommandLine
  executable : Path
  /-- In seconds. -/
  timeout : Nat
  color : ColorMode
  format : ReportFormat
  deriving DecidableEq, Repr

inductive Request where
  | run (verbose : Bool) (request : RunRequest)
  | list (verbose : Bool) (request : CorpusRequest)
  deriving DecidableEq, Repr

namespace Filled

/-- Fills the slots that are still free from the environment. -/
def addEnvironment (env : Environment) (f : Filled) : List Slot → Except ArgumentError Filled
  | [] => .ok f
  | slot :: rest =>
      if f.has slot then addEnvironment env f rest
      else match slot.variableName?.bind fun name => env.lookup name with
        | none => addEnvironment env f rest
        | some text => do
            let f ← f.fill slot text
            addEnvironment env f rest

def isVerbose (f : Filled) : Bool := f.has .verbose

def testsDir (f : Filled) : Path :=
  ((f.text? .testsDir).map Path.mk).getD Settings.standard.testsDir

def extension (f : Filled) : String :=
  (f.text? .extension).getD Settings.standard.extension

/-- The command line in a slot. -/
def commandLine (f : Filled) (slot : Slot) (standard : CommandLine) : CommandLine :=
  ((f.text? slot).bind fun text => (CommandLine.parse text).toOption).getD standard

def timeout (f : Filled) : Nat :=
  ((f.text? .timeout).bind fun text => Text.Decimal.readWord64 text.toList).getD
    Settings.standardSeconds

def corpusRequest (f : Filled) : CorpusRequest := ⟨f.testsDir, f.extension⟩

def runRequest (f : Filled) : RunRequest where
  corpus := f.corpusRequest
  compiler := f.commandLine .compiler Settings.standard.compiler
  build := f.commandLine .build Settings.standard.build
  executable := ((f.text? .executable).map Path.mk).getD Settings.standard.executable
  timeout := f.timeout
  color := ((f.text? .color).bind ColorMode.parse?).getD .auto
  format := ((f.text? .format).bind ReportFormat.parse?).getD .text

end Filled

namespace Request

def parseRun (env : Environment) (args : List String) : Except ArgumentError Request := do
  let given ← Scan.all .run args
  let f ← given.addEnvironment env Slot.ofRun
  return .run f.isVerbose f.runRequest

/-- The environment is checked for a run as well, from which the listing takes nothing. -/
def parseList (env : Environment) (args : List String) : Except ArgumentError Request := do
  let given ← Scan.all .list args
  let f ← given.addEnvironment env Slot.ofCorpus
  let _ ← Filled.addEnvironment env [] Slot.ofRun
  return .list f.isVerbose f.corpusRequest

/-- Help on the program, or on one of its subcommands. -/
def parseHelp : List String → ArgumentError
  | [] => .helpAsked
  | [topic] => if topic = "list" || topic = "help" then .helpAsked else .invalidSubcommand
  | _ => .invalidSubcommand

def parse (env : Environment) : List String → Except ArgumentError Request
  | "list" :: args => parseList env args
  | "help" :: topics => .error (parseHelp topics)
  | args => parseRun env args

end Request

namespace RunRequest

def settings (r : RunRequest) : Settings :=
  ((((((Settings.standard.withTestsDir r.corpus.testsDir).withExtension
    r.corpus.extension).withCompiler r.compiler).withBuild r.build).withExecutable
      r.executable).withLimit r.timeout)

end RunRequest

end Conformance
