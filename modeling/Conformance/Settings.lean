import Conformance.CommandLine

/-!
# Settings of a run

Where the tests are, which files count as tests, and the commands that compile, build and execute
them.  Every change of a setting keeps it in its normal form.
-/

namespace Conformance

/-- A span of time in milliseconds. -/
structure Span where
  millis : Nat
  deriving DecidableEq, Repr

namespace Span

def ofSeconds (n : Nat) : Span := ⟨1000 * n⟩

/-- The whole seconds of a span. -/
def seconds (s : Span) : Nat := s.millis / 1000

end Span

structure Settings where
  testsDir : Path
  extension : String
  compiler : CommandLine
  build : CommandLine
  executable : Path
  /-- How long a command may take; without a limit it may take any time. -/
  limit : Option Span
  deriving DecidableEq, Repr

namespace Settings

/-- The limit that holds unless another is asked for. -/
def standardSeconds : Nat := 60

def standard : Settings where
  testsDir := ⟨"tests"⟩
  extension := "sc"
  compiler := ⟨"cargo", ["run"]⟩
  build := ⟨"./build.sh", []⟩
  executable := ⟨"./a.out"⟩
  limit := some (Span.ofSeconds standardSeconds)

/-- An extension is kept without leading dots. -/
def normalExtension (extension : String) : String :=
  String.ofList (extension.toList.dropWhile (· == '.'))

/-- A limit of no seconds is none. -/
def limitOfSeconds (n : Nat) : Option Span :=
  if n = 0 then none else some (Span.ofSeconds n)

def withTestsDir (s : Settings) (dir : Path) : Settings := { s with testsDir := dir }

def withExtension (s : Settings) (extension : String) : Settings :=
  { s with extension := normalExtension extension }

def withCompiler (s : Settings) (c : CommandLine) : Settings := { s with compiler := c }

def withBuild (s : Settings) (c : CommandLine) : Settings := { s with build := c }

def withExecutable (s : Settings) (path : Path) : Settings := { s with executable := path }

def withLimit (s : Settings) (seconds : Nat) : Settings :=
  { s with limit := limitOfSeconds seconds }

end Settings

/-- One change of a setting, as it is written. -/
inductive Setting where
  | testsDir (path : Path)
  | extension (text : String)
  | compiler (line : String)
  | build (line : String)
  | executable (path : Path)
  | limit (seconds : Nat)
  deriving DecidableEq, Repr

/-- Makes a change; a command that cannot be read is refused. -/
def Settings.set (s : Settings) : Setting → Except CommandLineError Settings
  | .testsDir path => .ok (s.withTestsDir path)
  | .extension text => .ok (s.withExtension text)
  | .compiler line => (CommandLine.parse line).map s.withCompiler
  | .build line => (CommandLine.parse line).map s.withBuild
  | .executable path => .ok (s.withExecutable path)
  | .limit seconds => .ok (s.withLimit seconds)

end Conformance
