import Conformance.Arguments.Request
import Conformance.Harness
import Conformance.Host
import Conformance.Listing
import Conformance.Report.Diagnostic
import Conformance.Report.Rendering

/-!
# The program

The program reads its arguments, and runs or lists the tests of a corpus.  What it answers is the
text that it prints, a message about what went wrong, and a code that tells success from failure.
-/

namespace Conformance

/-- The place in which the program works: the files as they stand, and the toolchain that works on
them under given settings. -/
structure Workplace (σ : Type) where
  tree : σ → FileTree
  directory : Location
  toolchain : Settings → Toolchain σ
  /-- How the program has come to a stop in the midst of a stage, if it has. -/
  stop? : σ → Option Stop
  /-- What the program prints goes to a terminal. -/
  isTerminal : Bool

/-- How a command or the whole program has ended. -/
structure Outcome where
  code : Int
  output : String
  message : Option String
  deriving DecidableEq, Repr

namespace Outcome

/-- The code for tests that failed. -/
def failureCode : Int := 1

/-- The code for a corpus that cannot be read, and for arguments that cannot. -/
def discoveryCode : Int := 2

/-- The code of a program that is aborted. -/
def abortCode : Int := 101

def isSuccess (o : Outcome) : Bool := o.code == 0

def isFailure (o : Outcome) : Bool := o.code == failureCode

def isDiscovery (o : Outcome) : Bool := o.code == discoveryCode

def ofOutput (isSuccess : Bool) (output : String) : Outcome :=
  ⟨if isSuccess then 0 else failureCode, output, none⟩

def ofFault (f : Fault) : Outcome :=
  ⟨if f.isFatal then discoveryCode else failureCode, "", some f.diagnostic⟩

def aborted : Outcome := ⟨abortCode, "", none⟩

def ofArgumentError (e : ArgumentError) : Outcome := ⟨e.exitCode, "", none⟩

end Outcome

namespace Workplace

variable {σ : Type}

def contents (w : Workplace σ) (path : Path) (s : σ) : Except IoError Bytes :=
  (w.tree s).read w.directory path

def harness (w : Workplace σ) (settings : Settings) : Harness σ :=
  ⟨w.toolchain settings, w.contents⟩

def suites (w : Workplace σ) (dir : Path) (extension : String) (s : σ) :
    Except Fault (List Suite) :=
  Corpus.discover (w.tree s) w.directory dir extension

/-- What comes of a run that has gone through its tests. -/
def reply (w : Workplace σ) (done : Report × σ) : Reply σ Report :=
  match w.stop? done.2 with
  | none => .returned (.ok done.1) done.2
  | some how => .stopped how done.2

/-- Runs all tests that the settings name.  Only a corpus that cannot be read is a fault. -/
def runHarness (w : Workplace σ) (settings : Settings) (s : σ) : Reply σ Report :=
  match w.suites settings.testsDir settings.extension s with
  | .error fault => .returned (.error fault) s
  | .ok suites => w.reply ((w.harness settings).run suites s)

/-- The variable of the environment that forbids colours, whatever its text is. -/
def colorVariable : String := "NO_COLOR"

def showsColor (w : Workplace σ) (env : Environment) (mode : ColorMode) : Bool :=
  mode.isEnabled w.isTerminal (env.lookup colorVariable).isSome

/-- Runs the tests and prints the report.  There is no outcome of a program that never ends. -/
def runTests (w : Workplace σ) (env : Environment) (request : RunRequest) (s : σ) :
    Option Outcome × σ :=
  match w.runHarness request.settings s with
  | .returned (.error fault) s => (some (.ofFault fault), s)
  | .returned (.ok report) s =>
      let text := report.render request.format (w.showsColor env request.color)
      (some (.ofOutput report.isSuccess text), s)
  | .stopped .aborted s => (some .aborted, s)
  | .stopped .endless s => (none, s)

/-- Prints every test with its expectation.  Nothing is changed. -/
def listTests (w : Workplace σ) (request : CorpusRequest) (s : σ) : Outcome :=
  match w.suites request.testsDir (Settings.normalExtension request.extension) s with
  | .error fault => .ofFault fault
  | .ok suites =>
      let listing := Listing.ofSuites (fun path => w.contents path s) suites
      .ofOutput listing.isSound (Report.unlines listing.lines)

def perform (w : Workplace σ) (env : Environment) (request : Request) (s : σ) :
    Option Outcome × σ :=
  match request with
  | .run _ request => w.runTests env request s
  | .list _ request => (some (w.listTests request s), s)

/-- A host whose files are a tree, as the place to work in. -/
def ofHost (h : Host σ) (tree : σ → FileTree) (directory : Location) (isTerminal : Bool) :
    Workplace (Session σ) where
  tree x := tree x.state
  directory := directory
  toolchain := h.toolchain
  stop? := Session.stop?
  isTerminal := isTerminal

end Workplace

namespace Program

/-- What is printed for the version. -/
def version : String := "sctest 0.1.0\n"

variable {σ : Type}

/-- The whole program on its arguments and environment. -/
def run (w : Workplace σ) (env : Environment) (args : List String) (s : σ) : Option Outcome × σ :=
  match Request.parse env args with
  | .ok request => w.perform env request s
  | .error .versionAsked => (some ⟨0, version, none⟩, s)
  | .error e => (some (.ofArgumentError e), s)

end Program

end Conformance
