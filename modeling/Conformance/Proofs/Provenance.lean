import Conformance.Proofs.Evaluation
import Conformance.Proofs.Stage

/-!
# Who put what where

A world is a host whose files are a map from paths to entries, each with the event in which a command
put it there.  A command may end in any way and do anything to any path; nothing else changes files
but the removals that the toolchain asks for.  All stages and all commands that are started are kept
in a list of events, so that what holds whenever something happens is said about that list.
-/

namespace Conformance

namespace Provenance

variable {ε : Type}

/-- An entry, with the number of the event in which a command put it where it is.  What was there
from the start has none. -/
structure Placed (ε : Type) where
  entry : ε
  author : Option Nat

abbrev Files (ε : Type) := Path → Option (Placed ε)

/-- What a command does at a path. -/
inductive Change (ε : Type) where
  | keep
  | remove
  | put (entry : ε)

/-- A command that was started: the files as it found them, and what it did to them. -/
structure Start (ε : Type) where
  command : Command
  files : Files ε
  change : Path → Change ε

inductive Event (ε : Type) where
  | began (call : StageCall)
  | started (start : Start ε)

/-- The stage that begins. -/
def Event.call? : Event ε → Option StageCall
  | began call => some call
  | started _ => none

/-- The events of a stage: its beginning, and its command if that was started. -/
def stage (call : StageCall) (start? : Option (Start ε)) : List (Event ε) :=
  .began call :: start?.toList.map .started

@[simp] theorem began_mem_stage {call other : StageCall} {start? : Option (Start ε)} :
    .began other ∈ stage call start? ↔ other = call := by
  simp [stage]

theorem stage_eq_append {call other : StageCall} {start? : Option (Start ε)}
    {before after : List (Event ε)} (heq : stage call start? = before ++ .began other :: after) :
    before = [] ∧ other = call ∧ after = start?.toList.map .started := by
  cases before with
  | nil =>
      obtain ⟨hcall, rfl⟩ := List.cons.inj heq
      exact ⟨rfl, (Event.began.inj hcall).symm, rfl⟩
  | cons event before =>
      have hmem : .began other ∈ start?.toList.map Event.started :=
        (List.cons.inj heq).2 ▸ List.mem_append_right before List.mem_cons_self
      simp at hmem

structure Scene (ε : Type) where
  files : Files ε
  /-- What has happened, oldest first. -/
  events : List (Event ε)

namespace Scene

def begin (s : Scene ε) (call : StageCall) : Scene ε :=
  { s with events := s.events ++ [.began call] }

/-- The scene after a command has done its changes. -/
def apply (s : Scene ε) (command : Command) (change : Path → Change ε) : Scene ε where
  files path := match change path with
    | .keep => s.files path
    | .remove => none
    | .put entry => some ⟨entry, some s.events.length⟩
  events := s.events ++ [.started ⟨command, s.files, change⟩]

@[simp] theorem begin_files (s : Scene ε) (call : StageCall) : (s.begin call).files = s.files := rfl

@[simp] theorem begin_events (s : Scene ε) (call : StageCall) :
    (s.begin call).events = s.events ++ [.began call] := rfl

@[simp] theorem apply_events (s : Scene ε) (command : Command) (change : Path → Change ε) :
    (s.apply command change).events = s.events ++ [.started ⟨command, s.files, change⟩] := rfl

theorem apply_files_of_free {s : Scene ε} {path : Path} (hfree : s.files path = none)
    (command : Command) {change : Path → Change ε}
    (hsome : ((s.apply command change).files path).isSome) :
    ∃ entry, change path = .put entry ∧
      (s.apply command change).files path = some ⟨entry, some s.events.length⟩ := by
  cases hchange : change path with
  | keep => simp [apply, hchange, hfree] at hsome
  | remove => simp [apply, hchange] at hsome
  | put entry => exact ⟨entry, rfl, by simp [apply, hchange]⟩

end Scene

/-- How a command goes, and what it has done at each path by a time. -/
structure Conduct (ε : Type) where
  course : Course
  change : Nat → Path → Change ε

/-- An operating system: what comes of removing an entry, which paths lead to a regular file, and how
commands behave.  All of it may depend on everything that has happened. -/
structure World (ε : Type) where
  /-- The files without what stands at a path. -/
  unlink : Scene ε → Path → Except IoError (Files ε)
  isFile : Scene ε → Path → Bool
  /-- What the clock shows, in microseconds. -/
  clock : Scene ε → Nat
  conduct : Command → Option Nat → Scene ε → Except IoError (Conduct ε)
  unlink_ok {s : Scene ε} {path : Path} {files : Files ε} :
    unlink s path = .ok files → files path = none
  /-- No entry is found missing that is there. -/
  unlink_noEntry {s : Scene ε} {path : Path} :
    unlink s path = .error (.os .noEntry) → s.files path = none
  isSome_of_isFile {s : Scene ε} {path : Path} : isFile s path = true → (s.files path).isSome

namespace World

def host (w : World ε) : Host (Scene ε) where
  remove path s := (w.unlink s path).map fun files => { s with files := files }
  isFile path s := w.isFile s path
  start command until? s := (w.conduct command until? s).map fun conduct =>
    { begun := s.apply command (conduct.change 0)
      course := conduct.course
      takenAway := fun time => s.apply command (conduct.change time) }
  clock := w.clock

/-- The toolchain of the host, with its stages among the events. -/
def tools (w : World ε) (settings : Settings) : Toolchain (Session (Scene ε)) where
  compile source x :=
    (w.host.toolchain settings).compile source (x.alter (·.begin (.compile source)))
  build x := (w.host.toolchain settings).build (x.alter (·.begin .build))
  execute artifact x :=
    (w.host.toolchain settings).execute artifact (x.alter (·.begin (.execute artifact)))

/-- The harness at work in the world; the test files are read as the session stands. -/
def harness (w : World ε) (settings : Settings)
    (contents : Path → Session (Scene ε) → Except IoError Bytes) : Harness (Session (Scene ε)) :=
  ⟨w.tools settings, contents⟩

variable {w : World ε} {settings : Settings} {s t : Scene ε} {x y : Session (Scene ε)}

/-- A command that was started does its changes, however far it has come. -/
theorem start_ok {command : Command} {until? : Option Nat} {started : Started (Scene ε)}
    (hstart : w.host.start command until? s = .ok started) :
    (∃ change, started.begun = s.apply command change) ∧
      ∀ time, ∃ change, started.takenAway time = s.apply command change := by
  cases hconduct : w.conduct command until? s with
  | error cause => simp [host, hconduct, Except.map] at hstart
  | ok conduct =>
      simp only [host, hconduct, Except.map, Except.ok.injEq] at hstart
      subst hstart
      exact ⟨⟨conduct.change 0, rfl⟩, fun time => ⟨conduct.change time, rfl⟩⟩

/-- A command is not started at all, or does its changes; what is captured is from one that was. -/
theorem capture_cases {limit : Option Span} {label : String} {command : Command}
    {reply : Reply (Scene ε) Capture} (hcapture : w.host.capture limit label command s = reply) :
    (reply.state = s ∧ ∀ capture, reply.result? ≠ some (.ok capture)) ∨
      ∃ change, reply.state = s.apply command change := by
  cases Host.captures_of_eq hcapture with
  | aborted => exact .inl ⟨rfl, fun _ => nofun⟩
  | notStarted => exact .inl ⟨rfl, fun _ => nofun⟩
  | finished hstart => exact .inr ((start_ok hstart).2 _)
  | failed hstart => exact .inr ((start_ok hstart).2 _)
  | overtime hstart => exact .inr ((start_ok hstart).2 _)
  | endless hstart => exact .inr (start_ok hstart).1

theorem capture_ok {limit : Option Span} {label : String} {command : Command} {capture : Capture}
    (hcapture : w.host.capture limit label command s = .returned (.ok capture) t) :
    ∃ change, t = s.apply command change :=
  (capture_cases hcapture).resolve_left fun h => h.2 capture rfl

theorem capture_events (w : World ε) (limit : Option Span) (label : String) (command : Command)
    (s : Scene ε) : ∃ start? : Option (Start ε),
      (w.host.capture limit label command s).state.events = s.events ++ start?.toList.map .started ∧
      ∀ start ∈ start?, start.command = command ∧ start.files = s.files := by
  generalize hcapture : w.host.capture limit label command s = reply
  obtain ⟨hsame, -⟩ | ⟨change, hchange⟩ := capture_cases hcapture
  · exact ⟨none, by simp [hsame]⟩
  · exact ⟨some ⟨command, s.files, change⟩, by simp [hchange]⟩

theorem clear_ok {path : Path} (hclear : w.host.clear path s = .ok t) :
    t.files path = none ∧ t.events = s.events := by
  cases hunlink : w.unlink s path with
  | ok files =>
      obtain rfl : { s with files := files } = t := by
        simpa [Host.clear, host, hunlink, Except.map] using hclear
      exact ⟨w.unlink_ok hunlink, rfl⟩
  | error cause =>
      by_cases hcause : cause = .os .noEntry
      · subst hcause
        obtain rfl : s = t := by
          simpa [Host.clear, host, hunlink, Except.map, Errno.noEntry] using hclear
        exact ⟨w.unlink_noEntry hunlink, rfl⟩
      · simp only [Host.clear, host, hunlink, Except.map] at hclear
        split at hclear
        · rename_i hok
          cases hok
        · rename_i herror
          exact absurd (Except.error.inj herror) hcause
        · cases hclear

theorem release_events (w : World ε) (artifact : Artifact) (s : Scene ε) :
    (w.host.release artifact s).events = s.events := by
  unfold Host.release
  split
  · cases hunlink : w.unlink s artifact.path <;> simp [host, hunlink, Except.map]
  · rfl

/-! ## The stages -/

theorem compile_events {source : Path} {result : Except Fault Capture}
    (hcompile : (w.tools settings).compile source x = (result, y)) :
    y = x ∨ ∃ start?, y.state.events = x.state.events ++ stage (.compile source) start? := by
  obtain hsame | hnext := Session.stage_alter_cases hcompile
  · exact .inl hsame
  obtain ⟨start?, hevents, -⟩ := capture_events w settings.limit
    (toString settings.compiler ++ " " ++ source.text) (settings.compiler.toCommandOn source)
    (x.state.begin (.compile source))
  exact .inr ⟨start?, by rw [hnext, Host.compile, hevents]; simp [stage]⟩

theorem compile_ok {source : Path} {capture : Capture}
    (hcompile : (w.tools settings).compile source x = (.ok capture, y)) :
    ∃ compiled, compiled.command = settings.compiler.toCommandOn source ∧
      y.state.events = x.state.events ++ stage (.compile source) (some compiled) := by
  obtain ⟨t, -, rfl, hcaptured⟩ := Session.stage_alter_eq_ok hcompile
  obtain ⟨change, rfl⟩ := capture_ok hcaptured
  exact ⟨⟨settings.compiler.toCommandOn source, x.state.files, change⟩, rfl,
    by simp [stage, Session.going]⟩

/-- A build that succeeds was started on a free path, and has put an entry there. -/
theorem build_ok {artifact : Artifact}
    (hbuild : (w.tools settings).build x = (.ok artifact, y)) :
    artifact = ⟨settings.executable.anchored, true⟩ ∧
      ∃ built entry, built.command = settings.build.toCommand ∧
        y.state.events = x.state.events ++ stage .build (some built) ∧
        built.change settings.executable.anchored = .put entry ∧
        y.state.files settings.executable.anchored =
          some ⟨entry, some (x.state.events.length + 1)⟩ := by
  obtain ⟨t, -, rfl, hbuilt⟩ := Session.stage_alter_eq_ok hbuild
  cases Host.builds_of_eq hbuilt with
  | @built _ u _ hclear hcapture hfile =>
      obtain ⟨hfree, hevents⟩ := clear_ok hclear
      obtain ⟨change, rfl⟩ := capture_ok hcapture
      obtain ⟨entry, hput, hplaced⟩ :=
        Scene.apply_files_of_free hfree settings.build.toCommand (w.isSome_of_isFile hfile)
      refine ⟨rfl, ⟨settings.build.toCommand, u.files, change⟩, entry, rfl, ?_, hput, ?_⟩
      · simp [stage, hevents, Session.going]
      · rw [Session.going, hplaced, hevents]
        simp

theorem build_events {result : Except Fault Artifact}
    (hbuild : (w.tools settings).build x = (result, y)) :
    y = x ∨ ∃ start?, y.state.events = x.state.events ++ stage .build start? := by
  obtain hsame | hnext := Session.stage_alter_cases hbuild
  · exact .inl hsame
  have hbegun {u : Scene ε} {captured : Reply (Scene ε) Capture}
      (hclear : w.host.clear settings.executable.anchored (x.state.begin .build) = .ok u)
      (hcapture : w.host.capture settings.limit (toString settings.build) settings.build.toCommand u =
        captured) : ∃ start?, captured.state.events = x.state.events ++ stage .build start? := by
    obtain ⟨_, hevents⟩ := clear_ok hclear
    obtain ⟨start?, hstart, _⟩ := capture_events w settings.limit (toString settings.build)
      settings.build.toCommand u
    exact ⟨start?, by rw [← hcapture, hstart, hevents]; simp [stage]⟩
  rw [hnext]
  generalize hreply : w.host.build settings (x.state.begin .build) = reply
  refine .inr ?_
  cases Host.builds_of_eq hreply with
  | stale hclear => exact ⟨none, by simp [stage, Reply.state]⟩
  | stopped hclear hcapture => exact hbegun hclear hcapture
  | failed hclear hcapture => exact hbegun hclear hcapture
  | missing hclear hcapture hfile => exact hbegun hclear hcapture
  | built hclear hcapture hfile => exact hbegun hclear hcapture

theorem execute_events {artifact : Artifact} {result : Except Fault Capture}
    (hexecute : (w.tools settings).execute artifact x = (result, y)) :
    y = x ∨ ∃ start?, y.state.events = x.state.events ++ stage (.execute artifact) start? ∧
      ∀ start ∈ start?, start.command = ⟨artifact.path.text, []⟩ ∧ start.files = x.state.files := by
  obtain hsame | hnext := Session.stage_alter_cases hexecute
  · exact .inl hsame
  obtain ⟨start?, hevents, hstart⟩ := capture_events w settings.limit (toString artifact)
    ⟨artifact.path.text, []⟩ (x.state.begin (.execute artifact))
  have hreleased : (w.host.execute settings artifact (x.state.begin (.execute artifact))).state.events =
      (w.host.capture settings.limit (toString artifact) ⟨artifact.path.text, []⟩
        (x.state.begin (.execute artifact))).state.events := by
    generalize hreply : w.host.execute settings artifact (x.state.begin (.execute artifact)) = reply
    cases Host.executes_of_eq hreply with
    | returned hcapture | aborted hcapture =>
        rw [hcapture]
        exact release_events ..
    | endless hcapture => rw [hcapture]
  exact .inr ⟨start?, by rw [hnext, hreleased, hevents]; simp [stage], hstart⟩

end World

end Provenance

end Conformance
