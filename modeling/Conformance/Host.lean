import Conformance.Invocation
import Conformance.Session

/-!
# Hosts

A host starts commands and keeps the files that they leave behind.  On every host the same toolchain
works: it runs the compiler on a source, clears the path of the executable and runs the build, and
executes what stands at that path afterwards.
-/

namespace Conformance

/-- A command that was started: the host when the command has begun, the course of the command, and what the
host is like when the command and all of its group are taken away at a time. -/
structure Started (σ : Type) where
  begun : σ
  course : Course
  takenAway : Nat → σ

/-- What comes of a command that was started, by how the wait for it has ended.  Its group is taken away then,
however it has ended. -/
def Started.reply {σ : Type} (started : Started σ) (limit : Option Span) (label : String) :
    Ending → Reply σ Capture
  | .finished time status output => .returned (.ok (.ofOutput status output)) (started.takenAway time)
  | .failed time cause => .returned (.error (.invocation label cause)) (started.takenAway time)
  | .overtime time =>
      .returned (.error (.overtime label (limit.getD ⟨0⟩))) (started.takenAway time)
  | .never => .stopped .endless started.begun

structure Host (σ : Type) where
  /-- Removes a file or a link. -/
  remove : Path → σ → Except IoError σ
  /-- A path leads to a regular file. -/
  isFile : Path → σ → Bool
  /-- Starts a command whose course is looked at up to a time, if one is given. -/
  start : Command → Option Nat → σ → Except IoError (Started σ)
  /-- What the clock shows, in microseconds. -/
  clock : σ → Nat

namespace Host

variable {σ : Type}

/-- The clock can count to the end of a limit that begins now. -/
def canCount (h : Host σ) (limit : Option Span) (s : σ) : Bool :=
  limit.all fun span => (span.deadline? (h.clock s)).isSome

/-- Starts a command and waits for it. -/
def invoke (h : Host σ) (limit : Option Span) (label : String) (command : Command) (s : σ) :
    Reply σ Capture :=
  if !command.isPassable then .returned (.error (.invocation label .nulInCommand)) s
  else
    let deadline := limit.map Span.micros
    match h.start command (deadline.map Course.pollFrom) s with
    | .error cause => .returned (.error (.invocation label cause)) s
    | .ok started => started.reply limit label (started.course.ending deadline)

/-- Before a command is started the end of its limit is reckoned. -/
def capture (h : Host σ) (limit : Option Span) (label : String) (command : Command) (s : σ) :
    Reply σ Capture :=
  if h.canCount limit s then h.invoke limit label command s else .stopped .aborted s

/-- Removes what an earlier build has left; that nothing is there is as good. -/
def clear (h : Host σ) (path : Path) (s : σ) : Except Fault σ :=
  match h.remove path s with
  | .ok s => .ok s
  | .error (.os ⟨2⟩) => .ok s
  | .error cause => .error (.staleArtifact path cause)

/-- Gives an artifact up.  The file of an owned one is removed, if it can be. -/
def release (h : Host σ) (artifact : Artifact) (s : σ) : σ :=
  if artifact.owned then
    match h.remove artifact.path s with
    | .ok s => s
    | .error _ => s
  else s

def compile (h : Host σ) (settings : Settings) (source : Path) (s : σ) : Reply σ Capture :=
  h.capture settings.limit (toString settings.compiler ++ " " ++ source.text)
    (settings.compiler.toCommandOn source) s

/-- Runs the build on a free path.  What the build exits with does not matter, only what it leaves
behind. -/
def build (h : Host σ) (settings : Settings) (s : σ) : Reply σ Artifact :=
  let path := settings.executable.anchored
  match h.clear path s with
  | .error fault => .returned (.error fault) s
  | .ok s =>
      match h.capture settings.limit (toString settings.build) settings.build.toCommand s with
      | .stopped how s => .stopped how s
      | .returned (.error fault) s => .returned (.error fault) s
      | .returned (.ok _) s =>
          if h.isFile path s then .returned (.ok ⟨path, true⟩) s
          else .returned (.error (.missingArtifact path)) s

/-- Executes an artifact without arguments and releases it, also when the program is aborted. -/
def execute (h : Host σ) (settings : Settings) (artifact : Artifact) (s : σ) : Reply σ Capture :=
  match h.capture settings.limit (toString artifact) ⟨artifact.path.text, []⟩ s with
  | .returned result s => .returned result (h.release artifact s)
  | .stopped .aborted s => .stopped .aborted (h.release artifact s)
  | .stopped .endless s => .stopped .endless s

def toolchain (h : Host σ) (settings : Settings) : Toolchain (Session σ) where
  compile source := Session.stage (h.compile settings source)
  build := Session.stage (h.build settings)
  execute artifact := Session.stage (h.execute settings artifact)

end Host

end Conformance
