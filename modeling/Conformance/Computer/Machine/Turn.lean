import Conformance.Computer.Machine.Launch
import Conformance.Computer.Machine.Roster

/-!
# A process's turn

What a process can do when it is its turn: write, start other processes, send signals, and end.
Whatever it does, those who are there change by events only: each of its acts carries the proof.
-/

namespace Conformance

namespace Shell

def aliasesInUse (i : Interpreter) : List (Octets × Octets) :=
  if i.vars.isExtended && !i.vars.isSet "expand_aliases" then [] else i.aliases

def scanOf (i : Interpreter) (text : Octets) (line : Nat) : Scan :=
  { Launch.scriptFrom i.vars.dialect text with
    line
    aliases := aliasesInUse i
    alternatives := i.vars.isSet "extglob"
    wide := i.vars.isWide }

/-- What a shell has to do that a signal ends: a shell of the extended dialect carries out what is
set for its end. -/
def lastTasks? (i : Interpreter) (s : Signal) : Option (List Task) :=
  if !i.vars.isExtended || s.isSovereign then none
  else match i.traps.lookup .exit with
    | some action => if action.isEmpty then none else some [.script (scanOf i action 1), .die s]
    | none => none

end Shell

namespace Shell.Interpreter

/-- What a file is called among the functions that run. -/
def sourceName : Octets := "source".toList

/-- The shell with other functions and files that run.  The extended dialect shows them in
arrays. -/
def withCallers (i : Interpreter) (callers : List Frame) : Interpreter :=
  let v := i.vars
  let isFile := !v.has 'c' && !v.has 's'
  let own : List Octets := if isFile then [v.name] else []
  let sources := callers.map Frame.file ++ own
  let lines := callers.map (fun f => Octets.ofNat f.line) ++ (if isFile then [['0']] else [])
  let names := callers.map Frame.name ++ (if isFile then ["main".toList] else [])
  { i with
    callers
    vars := if !v.isExtended then v
      else
        let v := (v.setValue "BASH_SOURCE".toList (.ofList sources)).setValue
          "BASH_LINENO".toList (.ofList lines)
        if callers.all (·.name = sourceName) then v.remove "FUNCNAME".toList
        else v.setValue "FUNCNAME".toList (.ofList names) }

def isInFunction (i : Interpreter) : Bool := i.callers.any fun f => f.name != sourceName

def file (i : Interpreter) : Octets := (i.callers.head?.map Frame.file).getD i.vars.name

end Shell.Interpreter

/-! ## Tasks that are dropped -/

namespace Process

def modifyShell (f : Shell.Interpreter → Shell.Interpreter) (p : Process) : Process :=
  match p.running with
  | .shell i => { p with running := .shell (f i) }
  | .job _ => p

def restore (saved : List (Nat × Option Nat)) (p : Process) : Process :=
  { p with
    channels := saved.foldl (fun channels (n, hidden?) =>
      match hidden?.bind fun h => (channels.get? h).map fun c => (h, c) with
      | some (h, channel) => (channels.close h).put n channel
      | none => channels.close n) p.channels }

def returnTo (args : List Octets) (search : Shell.OptionSearch) (p : Process) : Process :=
  p.modifyShell fun i =>
    let v := { i.vars with args }
    -- What a function has done to the index variable does not count as setting it.
    let mark := (v.value? "OPTIND".toList).getD []
    ({ i with
      search := if v.isExtended then i.search else { search with mark }
      vars := v } : Shell.Interpreter).withCallers (i.callers.drop 1)

/-- Puts back what a task that is dropped would have put back. -/
def undo (p : Process) : Shell.Task → Process
  | .restore saved => p.restore saved
  | .close descriptors => { p with channels := descriptors.foldl Channels.close p.channels }
  | .unassign old => p.modifyShell fun i => { i with
      vars := old.foldl (fun v (x, before?) => match before? with
        | some entry => v.put x entry
        | none => v.remove x) i.vars }
  | .returnTo args search => p.returnTo args search
  | .endOfSource _ args? => p.modifyShell fun i =>
      let i := match args? with
        | some args => { i with vars := { i.vars with args } }
        | none => i
      if i.vars.isExtended then i.withCallers (i.callers.drop 1) else i
  | .setOptions options settings => p.modifyShell fun i => { i with
      vars := { i.vars with options, settings } }
  | _ => p

end Process

namespace Machine

def deliver (m : Machine) (s : Signal) (id : Nat) : Machine :=
  match m.process? id with
  | none => m
  | some p =>
      let p := if s = .resume then { p with stopped := false } else p
      if s.number = 0 then m
      else if p.ignored.contains s && !s.isSovereign then m.update p
      else if p.catches s then m.update (p.receiving s)
      else match s.effect with
        | .ends =>
            match p.running with
            | .job _ => m.finish id (.signal s)
            | .shell i =>
                match Shell.lastTasks? i s with
                | none => m.finish id (.signal s)
                | some tasks =>
                    m.update ((i.tasks.foldl Process.undo p).modifyShell fun i =>
                      { i with tasks, traps := i.traps.filter (·.1 != .exit) })
        | .stops => m.update { p with stopped := true }
        | .nothing => m.update p

/-- The processes with their groups.  One that has come from outside can be named until its end is
noticed there. -/
def known (m : Machine) : List (Nat × Nat) :=
  (m.processes.map fun p => (p.id, p.group)) ++
    ((m.awaited.filter fun id => !m.isAlive id).map fun id => (id, id))

/-- The processes that a number names: one, a group for a negative number, and for zero the group of
the sender. -/
def targets (m : Machine) (sender : Process) (n : Int) : List Nat :=
  let chosen := m.known.filter fun (id, group) =>
    if n > 0 then id = n.toNat
    else if n = -1 then id != sender.id
    else group = if n = 0 then sender.group else n.natAbs
  chosen.map Prod.fst

/-- Sends a signal to all that a number names; tells whether it named someone. -/
def send (m : Machine) (sender : Process) (s : Signal) (n : Int) : Bool × Machine :=
  let chosen := m.targets sender n
  -- The sender comes last, because it may not live to tell the others.
  let ordered := chosen.filter (· != sender.id) ++ chosen.filter (· = sender.id)
  (!chosen.isEmpty, ordered.foldl (fun m id => m.deliver s id) m)

def killGroup (m : Machine) (group : Nat) : Machine :=
  (m.processes.filter fun p => p.group = group).foldl
    (fun m p => m.finish p.id (.signal .kill)) m

/-! ## What signals do to those who are there -/

variable {m : Machine}

theorem evolves_deliver (s : Signal) (id : Nat) : m.roster.Evolves (m.deliver s id).roster := by
  simp only [deliver]
  split
  · exact .refl
  · repeat' split
    all_goals
      first
      | exact .refl
      | exact .of_eq (roster_update _)
      | exact evolves_finish _

theorem evolves_foldl {α : Type} {f : Machine → α → Machine} (l : List α)
    (hf : ∀ (m : Machine) a, m.roster.Evolves (f m a).roster) : m.roster.Evolves (l.foldl f m).roster := by
  induction l generalizing m with
  | nil => exact .refl
  | cons a l ih => exact (hf m a).trans ih

theorem evolves_send (sender : Process) (s : Signal) (n : Int) :
    m.roster.Evolves (m.send sender s n).2.roster :=
  evolves_foldl _ fun _ id => evolves_deliver s id

end Machine

/-- The machine, and the process whose turn it is. -/
structure Turn where
  machine : Machine
  id : Nat
  /-- The time that the turn has taken, beyond the least that every turn takes. -/
  cost : Nat

/-- Something that a process does, and what comes of it. -/
structure Act (α : Type) where
  run : Turn → α × Turn
  evolves : ∀ t : Turn, t.machine.roster.Evolves (run t).2.machine.roster

namespace Act

instance : Monad Act where
  pure a := ⟨fun t => (a, t), fun _ => .refl⟩
  bind act next :=
    { run := fun t => match act.run t with
        | (a, t) => (next a).run t
      evolves := fun t => (act.evolves t).trans ((next (act.run t).1).evolves _) }

/-! ## The acts that all others are made of -/

def turn : Act Turn := ⟨fun t => (t, t), fun _ => .refl⟩

def machine : Act Machine := do return (← turn).machine

def spend (micros : Nat) : Act Unit := ⟨fun t => ((), { t with cost := t.cost + micros }), fun _ => .refl⟩

def modifyWorld (f : Machine → Machine) : Act Unit where
  run t := ((), { t with machine := t.machine.inWorld (f t.machine) })
  evolves _ := .refl

def setWorld (m : Machine) : Act Unit := modifyWorld fun _ => m

def alter {α : Type} (f : Machine → α × Machine) (hf : ∀ m : Machine, m.roster.Evolves (f m).2.roster) :
    Act α where
  run t := match f t.machine with
    | (a, machine) => (a, { t with machine })
  evolves t := hf t.machine

def setProcess (p : Process) : Act Unit :=
  alter (fun m => ((), m.update p)) fun _ => .of_eq (Machine.roster_update p)

def finish (s : ExitStatus) : Act Unit := do
  let id := (← turn).id
  alter (fun m => ((), m.finish id s)) fun _ => Machine.evolves_finish s

def regroup : Act Unit := do
  let id := (← turn).id
  alter (fun m => ((), m.regroup id)) fun _ => Machine.evolves_regroup

/-- Gives the process a child, which is made from its number, and tells the number. -/
def addChild (child : Nat → Process) : Act Nat := do
  let id := (← turn).id
  alter (fun m => m.addChild id child) fun _ => Machine.evolves_addChild id child

def deliver (s : Signal) (id : Nat) : Act Unit :=
  alter (fun m => ((), m.deliver s id)) fun _ => Machine.evolves_deliver s id

/-- Sends a signal to all that a number names; tells whether it named someone. -/
def send (sender : Process) (s : Signal) (n : Int) : Act Bool :=
  alter (fun m => m.send sender s n) fun _ => Machine.evolves_send sender s n

def inside (id : Nat) (act : Act Unit) : Act Unit where
  run t := ((), { (act.run { t with id }).2 with id := t.id })
  evolves t := act.evolves { t with id }

/-! ## The process and its shell -/

def emptyVariables : Shell.Variables where
  dialect := .plain
  entries := []
  name := []
  args := []
  status := 0
  processId := 0
  ownId := 0
  lastBackground := none
  options := []
  settings := []
  line := 0
  command := ⟨0, [], []⟩
  copies := 0
  clock := 0
  ahead := 0
  seed := 0
  random := 0
  given := []
  aside := []

def emptyShell : Shell.Interpreter where
  vars := emptyVariables
  functions := []
  coprocess := none
  aliases := []
  tasks := []
  traps := []
  steadfast := []
  jobs := []
  hashed := []
  disabled := []
  search := ⟨1, none, ['1']⟩
  outputStatus := none
  sheltered := false
  yields := false
  callers := []
  place := []

/-- A process that does nothing, in the place of one that has ended. -/
def nobody (id : Nat) : Process where
  id
  parent := 0
  group := 0
  channels := []
  directory := []
  mask := 0
  allowances := []
  niceness := 0
  wakesAt := 0
  waits := []
  stopped := false
  ignored := []
  caught := []
  running := .shell emptyShell

def process : Act Process := do
  let t ← turn
  return (t.machine.process? t.id).getD (nobody t.id)

def modifyProcess (f : Process → Process) : Act Unit := do setProcess (f (← process))

def shell : Act Shell.Interpreter := do
  match (← process).running with
  | .shell i => return i
  | .job _ => return emptyShell

def modifyShell (f : Shell.Interpreter → Shell.Interpreter) : Act Unit :=
  modifyProcess (·.modifyShell f)

def modifyJob (f : Job → Job) : Act Unit :=
  modifyProcess fun p =>
    match p.running with
    | .job j => { p with running := .job (f j) }
    | .shell _ => p

def vars : Act Shell.Variables := do return (← shell).vars

def modifyVariables (f : Shell.Variables → Shell.Variables) : Act Unit :=
  modifyShell fun i => { i with vars := f i.vars }

def isExtended : Act Bool := do return (← vars).isExtended

def status : Act Nat := do return (← vars).status

def setStatus (n : Nat) : Act Unit := modifyVariables fun v => { v with status := n }

def push (task : Shell.Task) : Act Unit := modifyShell fun i => { i with tasks := task :: i.tasks }

def setTasks (tasks : List Shell.Task) : Act Unit := modifyShell fun i => { i with tasks }

def channels : Act Channels := do return (← process).channels

def setChannel (n : Nat) (channel : Channel) : Act Unit :=
  modifyProcess fun p => { p with channels := p.channels.put n channel }

/-- Writes to a descriptor, if it is open for writing.  Without a reader the process gets a signal,
unless it ignores that. -/
def tryWrite (descriptor : Nat) (s : Octets) : Act (Option Errno) := do
  let p ← process
  match p.channels.get? descriptor with
  | none => return if s.isEmpty then none else some Machine.badDescriptor
  | some channel => do
      let (outcome, m) := (← machine).write p.allowances.fileSize? channel s
      setWorld m
      match outcome with
      | .done => return none
      | .tooLong => do
          deliver .fileTooLong p.id
          return some ⟨27⟩
      | .refused e => return if s.isEmpty then none else some e
      | .broken => do
          deliver .brokenPipe p.id
          return some ⟨32⟩

def write (descriptor : Nat) (s : Octets) : Act Unit := do
  let _ ← tryWrite descriptor s

def print (s : Octets) : Act Unit := write 1 s

def messageStart (v : Shell.Variables) : Octets :=
  if v.isExtended then
    if v.line = 0 then v.name ++ ": ".toList
    else v.name ++ ": line ".toList ++ Octets.ofNat v.line ++ ": ".toList
  else v.name ++ ": ".toList ++ Octets.ofNat v.line ++ ": ".toList

def complain (message : Octets) : Act Unit := do
  write 2 (messageStart (← vars) ++ message ++ ['\n'])

def endShell (n : Nat) : Act Unit := do
  let n := n % 256
  let i ← shell
  setStatus n
  match i.traps.lookup .exit with
  | some action =>
      if action.isEmpty then finish (.code n)
      else
        modifyShell fun i => { i with
          traps := i.traps.filter (·.1 != .exit)
          tasks := [.script (Shell.scanOf i action 1), .afterTrap n .exit, .exit] }
  | none => finish (.code n)

/-- Ends a shell.  In the plain dialect what is set for the end finds the descriptors and the
arguments of the script, but the variables of the function that ends it. -/
def exitShell (n : Nat) : Act Unit := do
  let i ← shell
  if !i.vars.isExtended then
    let undone := i.tasks.filter fun t => match t with
      | .restore _ | .returnTo .. | .close _ => true
      | _ => false
    modifyProcess fun p => undone.foldl Process.undo p
  endShell n

/-- The tasks up to the end of the innermost call whose descriptors were redirected, and the rest. -/
def splitAtCall (called : Bool) (above : List Shell.Task) :
    List Shell.Task → Option (List Shell.Task × List Shell.Task)
  | [] => none
  | t :: rest =>
      match t with
      | .restore _ =>
          if called then some ((t :: above).reverse, rest) else splitAtCall false (t :: above) rest
      | .returnTo .. | .endOfEval | .endOfSource .. => splitAtCall true (t :: above) rest
      | .unassign _ | .rest => splitAtCall called (t :: above) rest
      | _ => splitAtCall false (t :: above) rest

/-- Ends a shell whose command has failed.  In the extended dialect what is set for the end finds
the variables of the script, and descriptors and arguments as they were before the innermost call
that was redirected. -/
def exitFailed (n : Nat) : Act Unit := do
  let i ← shell
  if i.vars.isExtended then
    let (inside, outside) := (splitAtCall false [] i.tasks).getD ([], i.tasks)
    let assigned := outside.filter fun t => match t with
      | .unassign _ => true
      | _ => false
    modifyProcess fun p => (inside ++ assigned).foldl Process.undo p
    endShell n
  else exitShell n

/-- The outcome of the command that runs decides what the shell does next.  The plain dialect looks
at the commands of a file by themselves. -/
def isTested (passesSources : Bool) : List Shell.Task → Bool
  | [] => false
  | .both _ :: _ | .either _ :: _ | .negate :: _ | .branch .. :: _ | .loopTest .. :: _ => true
  | .afterTrap .. :: _ => false
  | .endOfSource .. :: rest => passesSources && isTested passesSources rest
  | _ :: rest => isTested passesSources rest

def shelters (i : Shell.Interpreter) : Bool := i.sheltered || isTested i.vars.isExtended i.tasks

def watchesFailure (i : Shell.Interpreter) : Bool :=
  i.vars.has 'e' || i.traps.any fun (e, _) => e = .failure

/-- Ends a shell that is to end when a command fails, if one has, and does what is to be done
then. -/
def settle : Act Unit := do
  let i ← shell
  if watchesFailure i && i.vars.status != 0 && !shelters i then
    let n := i.vars.status
    let leaves := i.vars.has 'e'
    let inFunction := i.isInFunction && !i.vars.has 'E'
    match (if inFunction then none else i.traps.lookup .failure) with
    | some action => do
        if leaves then push .exit
        push (.afterTrap n .failure)
        push (.script (Shell.scanOf i action i.vars.line))
    | none => if leaves then exitFailed n

structure Copy where
  tasks : List Shell.Task
  channels : Channels
  forOutput : Bool
  isInner : Bool
  /-- A program that the copy turns into counts as started by this shell. -/
  yields : Bool

/-- Starts a process that goes on as a copy of this shell with its own tasks and descriptors. -/
def fork (c : Copy) : Act Nat := do
  let p ← process
  let i ← shell
  let m ← machine
  let extended := i.vars.isExtended
  let drops := c.forOutput && extended && !i.vars.isSet "inherit_errexit"
  let id ← addChild fun id =>
    { p with
      channels := c.channels
      caught := []
      waits := []
      running := .shell { i with
        vars := { i.vars with
          ownId := id
          copies := i.vars.copies + (if c.isInner then 1 else 0)
          seed := if extended then id else i.vars.seed
          options := if drops then i.vars.options.filter (· != 'e') else i.vars.options }
        tasks := c.tasks
        traps := i.traps.filter fun (e, action) => match e with
          | .signal _ => action.isEmpty
          | .failure => i.vars.has 'E'
          | .command | .leaving => i.vars.has 'T'
          | .exit => false
        jobs := if extended then i.jobs.map fun j => { j with inherited := true } else []
        sheltered := shelters i && (extended || !c.forOutput)
        yields := c.yields } }
  -- A shell that makes a process looks for a job that it can forget.
  if !extended then modifyShell fun i =>
    let isOver (j : Shell.BackgroundJob) : Bool := j.waited && !j.processes.any m.isAlive
    { i with jobs := i.jobs.eraseP isOver }
  spend 150
  return id

def become (name : String) (argv : List Octets) (environment : List (Octets × Octets)) :
    Act Unit := do
  let p ← process
  let m ← machine
  let own : List Nat := match p.running with
    | .shell i =>
        match i.coprocess with
        | some c => [c.source, c.target]
        | none => []
    | .job _ => []
  setProcess { p with
    caught := []
    channels := p.channels.filter fun (n, _) => n < 1000 && !own.contains n
    running := Launch.running m p.directory p.id p.parent p.ignored name argv environment }
  spend 250

end Act

end Conformance
