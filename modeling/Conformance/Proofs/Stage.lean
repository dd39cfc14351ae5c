import Conformance.Host

/-!
# What a stage can come to

`Host.Captures` lists what can come of starting a command and waiting for it, `Host.Builds` the exits
of a build and `Host.Executes` those of an execution, each with the state that is left.  What holds of
all commands, of all builds or of all executions is proved by cases on these.
-/

namespace Conformance

namespace Host

variable {σ : Type}

/-- The program is aborted before the command is started, or the command is not started, or the wait for it
ends in one of four ways, or not at all. -/
inductive Captures (host : Host σ) (limit : Option Span) (label : String) (command : Command)
    (s : σ) : Reply σ Capture → Prop
  | aborted (hcount : host.canCount limit s = false) :
      Captures host limit label command s (.stopped .aborted s)
  | notStarted {cause : IoError} (hcount : host.canCount limit s = true)
      (hcause : cause = .nulInCommand ∨
        host.start command ((limit.map Span.micros).map Course.pollFrom) s = .error cause) :
      Captures host limit label command s (.returned (.error (.invocation label cause)) s)
  | finished {started : Started σ} {time : Nat} {status : ExitStatus} {output : Bytes}
      (hstart : host.start command ((limit.map Span.micros).map Course.pollFrom) s = .ok started)
      (hending : started.course.ending (limit.map Span.micros) = .finished time status output) :
      Captures host limit label command s
        (.returned (.ok (.ofOutput status output)) (started.takenAway time))
  | failed {started : Started σ} {time : Nat} {cause : IoError}
      (hstart : host.start command ((limit.map Span.micros).map Course.pollFrom) s = .ok started)
      (hending : started.course.ending (limit.map Span.micros) = .failed time cause) :
      Captures host limit label command s
        (.returned (.error (.invocation label cause)) (started.takenAway time))
  | overtime {started : Started σ} {time : Nat}
      (hstart : host.start command ((limit.map Span.micros).map Course.pollFrom) s = .ok started)
      (hending : started.course.ending (limit.map Span.micros) = .overtime time) :
      Captures host limit label command s
        (.returned (.error (.overtime label (limit.getD ⟨0⟩))) (started.takenAway time))
  | endless {started : Started σ}
      (hstart : host.start command ((limit.map Span.micros).map Course.pollFrom) s = .ok started)
      (hending : started.course.ending (limit.map Span.micros) = .never) :
      Captures host limit label command s (.stopped .endless started.begun)

theorem captures_capture (host : Host σ) (limit : Option Span) (label : String)
    (command : Command) (s : σ) :
    host.Captures limit label command s (host.capture limit label command s) := by
  rw [capture]
  split
  · rename_i hcount
    rw [invoke]
    split
    · exact .notStarted hcount (.inl rfl)
    dsimp only
    split
    · exact .notStarted hcount (.inr ‹_›)
    rename_i started hstart
    cases hending : started.course.ending (limit.map Span.micros) with
    | finished time status output => exact .finished hstart hending
    | failed time cause => exact .failed hstart hending
    | overtime time => exact .overtime hstart hending
    | never => exact .endless hstart hending
  · rename_i hcount
    exact .aborted (by simpa using hcount)

theorem captures_of_eq {host : Host σ} {limit : Option Span} {label : String} {command : Command}
    {s : σ} {reply : Reply σ Capture} (hcapture : host.capture limit label command s = reply) :
    host.Captures limit label command s reply :=
  hcapture ▸ host.captures_capture limit label command s

/-- The clock counts its seconds in the non-negative half of a word of 64 bits. -/
theorem canCount_some_iff {host : Host σ} {span : Span} {s : σ} :
    host.canCount (some span) s = true ↔ (host.clock s + span.micros) / 1000000 < 2 ^ 63 := by
  by_cases hlast : (host.clock s + span.micros) / 1000000 < 2 ^ 63 <;>
    simp [canCount, Span.deadline?, Span.clockRange, Span.microsInSecond, hlast]

theorem capture_of_started {host : Host σ} {limit : Option Span} {label : String}
    {command : Command} {s : σ} {started : Started σ} (hcount : host.canCount limit s = true)
    (hpassable : command.isPassable = true)
    (hstart : host.start command ((limit.map Span.micros).map Course.pollFrom) s = .ok started) :
    host.capture limit label command s =
      started.reply limit label (started.course.ending (limit.map Span.micros)) := by
  simp only [capture, hcount, if_true, invoke, hpassable, hstart, Bool.not_true, Bool.false_eq_true,
    if_false]

theorem capture_of_uncountable {host : Host σ} {limit : Option Span} {label : String}
    {command : Command} {s : σ} (hcount : host.canCount limit s = false) :
    host.capture limit label command s = .stopped .aborted s := by
  simp only [capture, hcount, Bool.false_eq_true, if_false]

/-- The path of the executable cannot be cleared, or the program comes to a stop in the build, or the command
of the build comes to nothing, or it comes to its end and an executable is there or not. -/
inductive Builds (host : Host σ) (settings : Settings) (s : σ) : Reply σ Artifact → Prop
  | stale {fault : Fault} (hclear : host.clear settings.executable.anchored s = .error fault) :
      Builds host settings s (.returned (.error fault) s)
  | stopped {how : Stop} {u t : σ}
      (hclear : host.clear settings.executable.anchored s = .ok u)
      (hcapture : host.capture settings.limit (toString settings.build) settings.build.toCommand u =
        .stopped how t) :
      Builds host settings s (.stopped how t)
  | failed {fault : Fault} {u t : σ}
      (hclear : host.clear settings.executable.anchored s = .ok u)
      (hcapture : host.capture settings.limit (toString settings.build) settings.build.toCommand u =
        .returned (.error fault) t) :
      Builds host settings s (.returned (.error fault) t)
  | missing {capture : Capture} {u t : σ}
      (hclear : host.clear settings.executable.anchored s = .ok u)
      (hcapture : host.capture settings.limit (toString settings.build) settings.build.toCommand u =
        .returned (.ok capture) t)
      (hfile : host.isFile settings.executable.anchored t = false) :
      Builds host settings s (.returned (.error (.missingArtifact settings.executable.anchored)) t)
  | built {capture : Capture} {u t : σ}
      (hclear : host.clear settings.executable.anchored s = .ok u)
      (hcapture : host.capture settings.limit (toString settings.build) settings.build.toCommand u =
        .returned (.ok capture) t)
      (hfile : host.isFile settings.executable.anchored t = true) :
      Builds host settings s (.returned (.ok ⟨settings.executable.anchored, true⟩) t)

theorem builds_build (host : Host σ) (settings : Settings) (s : σ) :
    host.Builds settings s (host.build settings s) := by
  rw [build]
  split
  · exact .stale ‹_›
  split
  · exact .stopped ‹_› ‹_›
  · exact .failed ‹_› ‹_›
  split
  · exact .built ‹_› ‹_› ‹_›
  · rename_i hfile
    exact .missing ‹_› ‹_› (by simpa using hfile)

theorem builds_of_eq {host : Host σ} {settings : Settings} {s : σ} {reply : Reply σ Artifact}
    (hbuild : host.build settings s = reply) : host.Builds settings s reply :=
  hbuild ▸ host.builds_build settings s

/-- Whatever comes of the command, the artifact is released; only a wait without an end keeps it. -/
inductive Executes (host : Host σ) (settings : Settings) (artifact : Artifact) (s : σ) :
    Reply σ Capture → Prop
  | returned {result : Except Fault Capture} {t : σ}
      (hcapture : host.capture settings.limit (toString artifact) ⟨artifact.path.text, []⟩ s =
        .returned result t) :
      Executes host settings artifact s (.returned result (host.release artifact t))
  | aborted {t : σ}
      (hcapture : host.capture settings.limit (toString artifact) ⟨artifact.path.text, []⟩ s =
        .stopped .aborted t) :
      Executes host settings artifact s (.stopped .aborted (host.release artifact t))
  | endless {t : σ}
      (hcapture : host.capture settings.limit (toString artifact) ⟨artifact.path.text, []⟩ s =
        .stopped .endless t) :
      Executes host settings artifact s (.stopped .endless t)

theorem executes_execute (host : Host σ) (settings : Settings) (artifact : Artifact) (s : σ) :
    host.Executes settings artifact s (host.execute settings artifact s) := by
  rw [execute]
  split
  · exact .returned ‹_›
  · exact .aborted ‹_›
  · exact .endless ‹_›

theorem executes_of_eq {host : Host σ} {settings : Settings} {artifact : Artifact} {s : σ}
    {reply : Reply σ Capture} (hexecute : host.execute settings artifact s = reply) :
    host.Executes settings artifact s reply :=
  hexecute ▸ host.executes_execute settings artifact s

theorem capture_of_execute {host : Host σ} {settings : Settings} {artifact : Artifact} {s t : σ}
    {result : Except Fault Capture} (hexecute : host.execute settings artifact s = .returned result t) :
    ∃ u, host.capture settings.limit (toString artifact) ⟨artifact.path.text, []⟩ s =
      .returned result u := by
  cases executes_of_eq hexecute with
  | returned hcapture => exact ⟨_, hcapture⟩

theorem Executes.unique {host : Host σ} {settings : Settings} {artifact : Artifact} {s : σ}
    {reply : Reply σ Capture} (h : host.Executes settings artifact s reply) :
    host.execute settings artifact s = reply := by
  cases h with
  | returned hcapture | aborted hcapture | endless hcapture => simp only [execute, hcapture]

end Host

end Conformance
