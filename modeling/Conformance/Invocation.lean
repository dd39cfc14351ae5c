import Conformance.ExitStatus
import Conformance.Text.Lines
import Conformance.Text.Utf8
import Conformance.Toolchain

/-!
# Invocations

A command that was started has a course: it exits, and its output and its messages come to their
end, each at some time or never.  The one who started it looks now and then whether it has exited,
then waits for the two texts, and gives up at a deadline.  The look for the exit can itself go wrong.
All times are in microseconds after the start.
-/

namespace Conformance

structure Course where
  /-- From when on there is an answer to the look for the exit, and whether it is an exit. -/
  exit : Option (Nat × Except IoError ExitStatus)
  /-- When nothing more can come to standard output, and what has come. -/
  output : Option (Nat × Bytes)
  /-- When nothing more can come to standard error. -/
  errors : Option Nat
  deriving Repr

/-- What comes of waiting for a command. -/
inductive Ending where
  | finished (time : Nat) (status : ExitStatus) (output : Bytes)
  /-- The exit cannot be waited for. -/
  | failed (time : Nat) (cause : IoError)
  | overtime (time : Nat)
  /-- There is no deadline, and the wait goes on for ever. -/
  | never
  deriving DecidableEq, Repr

namespace Course

/-- The time between two looks at a command that has a deadline. -/
def pollInterval : Nat := 10000

/-- The first look that is not before a time. -/
def pollFrom (time : Nat) : Nat := (time + (pollInterval - 1)) / pollInterval * pollInterval

theorem le_pollFrom (time : Nat) : time ≤ pollFrom time := by
  simp only [pollFrom, pollInterval]
  omega

/-- When an exit is noticed: at the first look after it, unless a look before that has come upon the
deadline.  Without a deadline the exit is waited for. -/
def noticed (deadline : Option Nat) (exit : Nat) : Option Nat :=
  match deadline with
  | none => some exit
  | some d => if pollFrom exit ≤ pollFrom d then some (pollFrom exit) else none

/-- When a text is received that comes to its end at a time: at once if it is there already, and by
the deadline otherwise. -/
def received (deadline : Option Nat) (now : Nat) (comes : Option Nat) : Option Nat :=
  match comes, deadline with
  | none, _ => none
  | some t, none => some (max now t)
  | some t, some d => if t ≤ max now d then some (max now t) else none

/-- The wait is given up at the deadline, or at once if that is past. -/
def givenUp (deadline : Option Nat) (now : Nat) : Ending :=
  match deadline with
  | none => .never
  | some d => .overtime (max now d)

/-- Waits for the exit, then for the output, then for the messages. -/
def ending (c : Course) (deadline : Option Nat) : Ending :=
  match c.exit.bind fun (t, answer) => (noticed deadline t).map fun now => (now, answer) with
  | none => givenUp (deadline.map pollFrom) 0
  | some (now, .error cause) => .failed now cause
  | some (now, .ok status) =>
      match received deadline now (c.output.map Prod.fst), c.output with
      | some later, some (_, output) =>
          match received deadline later c.errors with
          | some last => .finished last status output
          | none => givenUp deadline later
      | _, _ => givenUp deadline now

end Course

/-- The lines of an output and the code of an exit. -/
def Capture.ofOutput (status : ExitStatus) (output : Bytes) : Capture :=
  ⟨Text.outputLines (String.ofList (Text.Utf8.decodeLossy output)), status.code?.map Int.ofNat⟩

namespace Span

def micros (s : Span) : Nat := 1000 * s.millis

def microsInSecond : Nat := 1000000

/-- The seconds that a clock can count. -/
def clockRange : Nat := 2 ^ 63

/-- When a limit ends that begins now, if the clock can count that far. -/
def deadline? (now : Nat) (limit : Span) : Option Nat :=
  let last := now + limit.micros
  if last / microsInSecond < clockRange then some last else none

end Span

end Conformance
