import Conformance.Computer.Machine.Schedule
import Conformance.Host

/-!
# The machine as a host

A command becomes the first process of a group of its own.  It reads from nothing and writes to two
pipes that are read from outside.  The course of the command is found by letting the machine go on
until the process has ended and both pipes have lost their writers.
-/

namespace Conformance

namespace Machine

/-- What has been seen of the process of a command and of its two pipes. -/
structure Watch where
  id : Nat
  out : Nat
  err : Nat
  /-- The time at which the command was started. -/
  origin : Nat
  /-- The exit is only looked for now and then. -/
  polls : Bool
  course : Course

namespace Watch

def isComplete (w : Watch) : Bool :=
  w.course.exit.isSome && w.course.output.isSome && w.course.errors.isSome

/-- Takes down what has happened since the last look. -/
def look (w : Watch) (m : Machine) : Watch :=
  let now := m.clock - w.origin
  let exit := w.course.exit <|> (m.ended.lookup w.id).map fun status => (now, .ok status)
  let output := w.course.output <|>
    if m.hasWriter w.out then none
    else some (now, Octets.toBytes ((m.pipes.lookup w.out).getD emptyPipe).chunks.reverse.flatten)
  let errors := w.course.errors <|> if m.hasWriter w.err then none else some now
  { w with course := ⟨exit, output, errors⟩ }

/-- When the exit is noticed, if it has been seen, as a time after the start. -/
def noticed? (w : Watch) : Option Nat :=
  w.course.exit.map fun (t, _) => if w.polls then Course.pollFrom t else t

end Watch

/-- From the time on at which the end of the command is noticed, its number can be given again. -/
def notice (m : Machine) (w : Watch) : Machine :=
  if w.noticed?.any (w.origin + · ≤ m.clock) then m.noticeEnd w.id else m

theorem clock_notice (m : Machine) (w : Watch) : (m.notice w).clock = m.clock := by
  unfold notice noticeEnd
  repeat' split
  all_goals rfl

theorem clock_lt_advance_notice {m : Machine} {time : Nat} (w : Watch) (h : m.clock < time) :
    m.clock < ((m.notice w).advance time).clock := by
  rw [← m.clock_notice w] at h ⊢
  exact clock_lt_advance h

/-- Lets the machine go on until all has happened that is watched for, or up to a time. -/
def watch (m : Machine) (w : Watch) (time : Nat) : Machine × Watch :=
  let w := w.look m
  if w.isComplete then (m, w)
  else if m.clock < time then watch ((m.notice w).advance time) w time
  else (m, w)
termination_by time - m.clock
decreasing_by
  rename_i h
  exact Nat.sub_lt_sub_left h (clock_lt_advance_notice _ h)

/-- How far ahead the machine looks for the end of a command without a limit: one day. -/
def horizon : Nat := 24 * 3600 * 1000000

/-- Takes away the group of a command and its pipes, and the command itself as long as its end has not
been noticed. -/
def takeAway (m : Machine) (w : Watch) : Machine :=
  let m := m.killGroup w.id
  let m := if m.awaited.contains w.id then m.finish w.id (.signal .kill) else m
  { m with
    awaited := m.awaited.filter (· != w.id)
    pipes := m.pipes.filter fun p => p.1 != w.out && p.1 != w.err
    outside := m.outside.filter fun p => p != w.out && p != w.err }

/-- Makes the process of a command, with its input and its two pipes. -/
def launch (m : Machine) (dir : Location) (environment : List (Octets × Octets)) (polls : Bool)
    (name : String) (argv : List Octets) : Machine × Watch :=
  let (out, world) := m.newPipe
  let (err, world) := world.newPipe
  let (world, input) := match world.openPath dir 0 ⟨"/dev/null"⟩ .read with
    | .ok opened => (opened.machine, [(0, opened.channel)])
    | .error _ => (world, [])
  let (id, m) := (m.inWorld { world with outside := out :: err :: world.outside }).addLeader fun id =>
    { id
      parent := outsider
      group := id
      channels := input ++ [(1, .pipeEnd out false true), (2, .pipeEnd err false true)]
      directory := dir
      mask := 0o022
      allowances := []
      niceness := 0
      wakesAt := m.clock
      waits := []
      stopped := false
      ignored := []
      caught := []
      running := Launch.running world dir id outsider [] name argv environment }
  (m, ⟨id, out, err, m.clock, polls, ⟨none, none, none⟩⟩)

/-- How things go on when a command has been started: what is seen of the command, if it is looked at up to
a time, and the machine at each time after the start.  Whatever the processes do, it comes about by
events. -/
structure Behaviour where
  conduct : Machine → Watch → Option Nat → Course × (Nat → Machine)
  evolves (m : Machine) (w : Watch) (limit : Option Nat) (time : Nat) :
    m.roster.Evolves ((conduct m w limit).2 time).roster

theorem evolves_notice (m : Machine) (w : Watch) : m.roster.Evolves (m.notice w).roster := by
  unfold notice
  split
  · exact evolves_noticeEnd
  · exact .refl

theorem evolves_watch (m : Machine) (w : Watch) (time : Nat) :
    m.roster.Evolves (m.watch w time).1.roster := by
  fun_induction watch m w time with
  | case1 | case3 => exact .refl
  | case2 m w w' _ _ ih =>
    exact ((m.evolves_notice w').trans ((m.notice w').evolves_advance time)).trans ih

/-- The processes take their turns. -/
def turns : Behaviour where
  conduct begun first limit :=
    let (seen, w) := begun.watch first (first.origin + limit.getD horizon)
    (w.course, fun time =>
      let last := first.origin + time
      (if seen.clock ≤ last then seen else (begun.watch first last).1).runUntil last)
  evolves begun first limit time := by
    refine Roster.Evolves.trans ?_ (evolves_runUntil _ _)
    split <;> exact evolves_watch _ _ _

/-- The installed program that a command starts in a directory, with its arguments. -/
def commandImage (m : Machine) (dir : Location) (environment : List (Octets × Octets))
    (command : Command) : Except IoError (String × List Octets) :=
  let words := (command.program :: command.args).map Octets.ofString
  let search := (environment.lookup "PATH".toList).getD Launch.standardSearch
  Launch.image m.tree dir search none words

/-- Starts a command in a directory. -/
def startCommand (b : Behaviour) (dir : Location) (environment : List (Octets × Octets))
    (command : Command) (limit : Option Nat) (m : Machine) : Except IoError (Started Machine) := do
  let (name, argv) ← m.commandImage dir environment command
  let (begun, first) := m.launch dir environment limit.isSome name argv
  let (course, goesOn) := b.conduct begun first limit
  return { begun, course, takenAway := fun time => (goesOn time).takeAway first }

/-- The machine, as its commands see it that are started in a directory. -/
def hostOf (b : Behaviour) (dir : Location) (environment : List (Octets × Octets)) : Host Machine where
  remove path m := do
    return m.setTree (← m.tree.remove dir path)
  isFile path m := m.tree.isRegularFile dir path
  start := startCommand b dir environment
  clock := Machine.clock

def host : Location → List (Octets × Octets) → Host Machine := hostOf turns

end Machine

end Conformance
