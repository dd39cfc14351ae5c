import Conformance.Computer.Machine.Interpreter
import Conformance.Computer.Machine.Work

/-!
# The course of time

Processes take turns.  Each turn takes some time, and when no process can go on the clock moves to
the time at which the next one wakes.
-/

namespace Conformance

namespace Machine

/-! ## Who can go on -/

/-- A descriptor of a process has nothing for it yet. -/
def lacksInput (m : Machine) (p : Process) (descriptor : Nat) : Bool :=
  match p.channels.get? descriptor with
  | some channel => !m.isReadable channel
  | none => false

/-- What a process prints would have to wait. -/
def lacksRoom (m : Machine) (p : Process) : Bool :=
  match p.channels.get? 1 with
  | some channel => m.isFull channel
  | none => false

/-- What holds a process up. -/
inductive Hold where
  | nothing
  /-- Something that another process has to do, at most up to a time. -/
  | others (deadline : Option Nat)
  deriving DecidableEq, Repr

def Hold.while (waits : Bool) (deadline : Option Nat) : Hold :=
  if waits then .others deadline else .nothing

def jobHold (m : Machine) (p : Process) (j : Job) : Hold :=
  match j.calling, j.guarding, j.gathering with
  | some c, _, _ => .while (m.isAlive c.process || c.pipe.any m.hasWriter) none
  | none, some g, _ => .while (m.isAlive g.process) g.deadline
  | none, none, some g => .while (!m.isReadable g.channel) none
  | none, none, none =>
      if j.wantsInput then .while (m.lacksInput p 0) none else .while (m.lacksRoom p) none

def shellHold (m : Machine) (p : Process) (i : Shell.Interpreter) : Hold :=
  match i.tasks with
  | .await processes _ asked :: _ =>
      .while (processes.any m.isAlive && !(asked && !p.caught.isEmpty)) none
  | .join processes :: _ => .while (processes.any m.isAlive) none
  | .awaitAny processes :: _ => .while (processes.all m.isAlive && p.caught.isEmpty) none
  | .collect id pipe _ _ _ _ :: _ =>
      .while (!m.isFull (.pipeEnd pipe false true) && (m.hasWriter pipe || m.isAlive id)) none
  | .readLine r _ :: _ => .while (m.lacksInput p r.descriptor) r.deadline
  | .readLines r _ :: _ => .while (m.lacksInput p r.descriptor) none
  | .readScript _ :: _ => .while (m.lacksInput p 0) none
  | .expand .. :: _ | .execute .. :: _ => .while (m.lacksRoom p) none
  | _ => .nothing

def hold (m : Machine) (p : Process) : Hold :=
  if p.stopped || p.waits.any m.isAwaited then .others none
  else match p.running with
    | .job j => m.jobHold p j
    | .shell i => m.shellHold p i

/-- The time from which on a process can go on, if that hangs on the time alone. -/
def readyTime? (m : Machine) (p : Process) : Option Nat :=
  match m.hold p with
  | .nothing => some p.wakesAt
  | .others none => none
  | .others (some deadline) => some (max p.wakesAt deadline)

def isReady (m : Machine) (p : Process) : Bool := (m.readyTime? p).any (· ≤ m.clock)

/-! ## Turns -/

def turnTime : Nat := 10

/-- How many open files and pipes there may be before those are forgotten that nobody has open. -/
def clutter : Nat := 64

/-- A process does one thing; then it is the turn of the others. -/
def takeTurn (m : Machine) (p : Process) : Machine :=
  let act := match p.running with
    | .shell _ => Shell.step
    | .job j => Job.step j
  let begun := { m with tree := m.tree.atTime m.now }
  let t := (act.run ⟨begun, p.id, 0⟩).2
  let after := if t.machine.files.length + t.machine.pipes.length > clutter then t.machine.tidy
    else t.machine
  { after.rotate p.id with clock := m.clock + (turnTime + t.cost) }

theorem clock_lt_takeTurn (m : Machine) (p : Process) : m.clock < (m.takeTurn p).clock := by
  simp only [takeTurn, turnTime]
  omega

theorem evolves_takeTurn (m : Machine) (p : Process) : m.roster.Evolves (m.takeTurn p).roster := by
  simp only [takeTurn]
  generalize (match p.running with
    | .shell _ => Shell.step
    | .job j => Job.step j) = act
  have hact := act.evolves ⟨{ m with tree := m.tree.atTime m.now }, p.id, 0⟩
  refine hact.trans (.of_eq ?_)
  split <;> exact roster_rotate

def nextWaking (m : Machine) : Option Nat :=
  ((m.processes.filterMap m.readyTime?).filter (m.clock < ·)).min?

/-- Lets one process take its turn, or the clock move on, though not past a time. -/
def advance (m : Machine) (time : Nat) : Machine :=
  match m.processes.find? m.isReady with
  | some p => m.takeTurn p
  | none =>
      match m.nextWaking with
      | none => { m with clock := time }
      | some waking => { m with clock := if m.clock < waking then min waking time else time }

theorem clock_lt_advance {m : Machine} {time : Nat} (h : m.clock < time) :
    m.clock < (m.advance time).clock := by
  unfold advance
  split
  · exact m.clock_lt_takeTurn _
  · split <;> grind

theorem evolves_advance (m : Machine) (time : Nat) : m.roster.Evolves (m.advance time).roster := by
  unfold advance
  split
  · exact m.evolves_takeTurn _
  · split <;> exact .refl

/-- The machine goes on until its clock has reached a time. -/
def runUntil (m : Machine) (time : Nat) : Machine :=
  if m.clock < time then runUntil (m.advance time) time else m
termination_by time - m.clock
decreasing_by
  rename_i h
  have := clock_lt_advance h
  omega

theorem evolves_runUntil (m : Machine) (time : Nat) : m.roster.Evolves (m.runUntil time).roster := by
  fun_induction runUntil m time with
  | case1 m h ih => exact (m.evolves_advance time).trans ih
  | case2 m h => exact .refl

theorem le_clock_runUntil (m : Machine) (time : Nat) : time ≤ (m.runUntil time).clock := by
  fun_induction runUntil m time <;> grind

end Machine

end Conformance
