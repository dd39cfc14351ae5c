import Conformance.Computer.Machine.Allowance
import Conformance.Computer.Machine.Signal
import Conformance.Computer.Shell.Assignment
import Conformance.Computer.Shell.Reader.Command
import Conformance.Computer.Utility.Basic
import Conformance.FileTree.Walk

/-!
# The machine

What the commands of the stages do stands apart from the program that starts them.  They run on a
machine with a file tree, processes, open files and pipes.  One process takes a step at a time, and
each step takes time, so that the clock always goes on.
-/

namespace Conformance

/-- What a descriptor of a process stands for. -/
inductive Channel where
  | file (description : Nat)
  | pipeEnd (pipe : Nat) (reads writes : Bool)
  deriving DecidableEq, Repr

/-- An entry that was opened, by its number.  Descriptors that were copied share the place they have
come to. -/
structure OpenFile where
  number : Nat
  offset : Nat
  appends : Bool
  readable : Bool
  writable : Bool
  deriving Repr

/-- What has been written to a pipe and not been read, newest first, and its size. -/
structure Pipe where
  chunks : List Octets
  size : Nat
  entry : Option Nat
  readerCount : Nat
  writerCount : Nat
  deriving Repr

abbrev Channels := List (Nat × Channel)

namespace Shell

/-- What an action can be set for. -/
inductive Event where
  | signal (s : Signal)
  | exit
  | failure
  | command
  | leaving
  deriving DecidableEq, Repr

/-- A redirection whose target is known. -/
structure Aimed where
  descriptor : Nat
  holder : Option Octets
  kind : RedirectionKind
  target : Octets
  isAmbiguous : Bool

/-- A simple command with its words expanded. -/
structure Prepared where
  origin : Origin
  args : List Octets
  redirections : List Aimed
  arrays : List Listed
  assigned : List (Octets × Option Variable)
  shown : List (Octets × Octets)

/-- Commands that wait for words to be expanded. -/
inductive Goal where
  | simple (origin : Origin) (assignments : List Assignment) (words : List Word)
      (redirections : List Redirection)
  | redirect (redirections : List Redirection) (body : Command)
  | each (name : Octets) (words : List Word) (body : Command)
  | menu (name : Octets) (words : List Word) (body : Command)
  | choice (word : Word) (arms : List Arm)
  | evaluation (expression : Word)
  | examination (condition : Condition)
  | counting (now test step : Word) (body : Command) (last : Nat)
  | countingTest (test step : Word) (body : Command) (last : Nat)

/-- How the words of a line are taken from the input. -/
structure LineRequest where
  raw : Bool
  names : List Octets
  array : Option Octets
  ending : Char
  descriptor : Nat
  count : Option Nat
  exactly : Bool
  deadline : Option Nat

/-- How the lines of an array are taken from the input. -/
structure LinesRequest where
  descriptor : Nat
  name : Octets
  chomps : Bool
  ending : Char
  skip : Nat
  most : Option Nat
  index : Nat
  count : Nat
  pending : List Octets
  callback : Option (Octets × Nat)

/-- The state of the search for options among arguments. -/
structure OptionSearch where
  index : Nat
  offset : Option Nat
  mark : Octets
  deriving DecidableEq, Repr

/-- What a shell has to do after what it is doing. -/
inductive Task where
  | script (scan : Scan)
  | run (c : Command)
  | expand (goal : Goal) (outputs : List Output) (passages : List Nat)
  | collect (process pipe : Nat) (taken : List Octets) (goal : Goal) (outputs : List Output)
      (passages : List Nat)
  | execute (functionsToo : Bool) (p : Prepared)
  | both (second : Command)
  | either (second : Command)
  | negate
  | branch (yes no : Command)
  | loopTest (outcome : Bool) (condition body : Command) (last : Nat)
  | loopAgain (outcome : Bool) (condition body : Command)
  | countingAgain (test step : Word) (body : Command)
  | next (name : Octets) (values : List Octets) (body : Command)
  | offer (name : Octets) (values : List Octets) (body : Command) (shows : Bool)
  | pick (name : Octets) (values : List Octets) (body : Command)
  | nextArm (text : Octets) (arms : List Arm) (tests : Bool)
  /-- Puts back what descriptors led to, which has been kept under other numbers. -/
  | restore (saved : List (Nat × Option Nat))
  | returnTo (args : List Octets) (search : OptionSearch)
  | endOfSource (file : Octets) (args : Option (List Octets))
  | endOfEval
  /-- Waits for processes and takes the status of the last of them.  A wait that the script asked
  for is broken off by a caught signal. -/
  | await (processes : List Nat) (last : Option Nat) (asked : Bool)
  | awaitAny (processes : List Nat)
  /-- Waits for the processes of a pipeline whose last command the shell has run itself. -/
  | join (processes : List Nat)
  | readLine (request : LineRequest) (taken : Octets)
  | readLines (request : LinesRequest) (taken : Octets)
  | readScript (taken : List Octets)
  | unassign (old : List (Octets × Option Variable))
  | giveUp (message : Octets) (status : Nat)
  | settle
  | afterTrap (status : Nat) (event : Event)
  | rest
  | close (descriptors : List Nat)
  | timed (portable : Bool) (start : Nat)
  | setOptions (options : List Char) (settings : List String)
  | exit
  | die (s : Signal)

/-- A command that runs in the background. -/
structure BackgroundJob where
  processes : List Nat
  last : Nat
  waited : Bool
  inherited : Bool
  text : Octets
  deriving Repr

/-- A function that has been defined. -/
structure Routine where
  body : Command
  origin : Origin
  file : Octets
  exported : Bool
  readOnly : Bool

/-- A function or a file that runs: the line on which it was called, and the file it stands in. -/
structure Frame where
  name : Octets
  line : Nat
  file : Octets
  deriving Repr

/-- A command that runs beside a shell, and the descriptors by which the shell reads from it and
writes to it. -/
structure Coprocess where
  name : Octets
  process : Nat
  source : Nat
  target : Nat
  deriving Repr

/-- A program that has been looked for and found. -/
structure Hashed where
  name : Octets
  path : Octets
  hits : Nat
  search : Octets
  moved : Bool
  deriving Repr

structure Interpreter where
  vars : Variables
  functions : List (Octets × Routine)
  coprocess : Option Coprocess
  aliases : List (Octets × Octets)
  tasks : List Task
  traps : List (Event × Octets)
  /-- The signals that were ignored when the shell began, and stay so whatever a trap says. -/
  steadfast : List Signal
  jobs : List BackgroundJob
  hashed : List Hashed
  disabled : List Octets
  search : OptionSearch
  outputStatus : Option Nat
  sheltered : Bool
  yields : Bool
  callers : List Frame
  place : Octets

end Shell

/-- A named pipe that a program reads from. -/
structure Gathering where
  file : Octets
  channel : Channel
  taken : List Octets
  deriving Repr

/-- A command that a program runs: its process, and the pipe with its output. -/
structure Calling where
  process : Nat
  pipe : Option Nat
  deriving Repr

/-- A command that a program watches. -/
structure Guarding where
  process : Nat
  limit : Utility.Limit
  deadline : Option Nat
  timedOut : Bool
  killed : Bool
  deriving Repr

/-- An installed program at work. -/
structure Job where
  name : String
  args : List Octets
  environment : List (Octets × Octets)
  before : FileTree
  input : List Octets
  inputEnded : Bool
  inputFailure : Option IoError
  wantsInput : Bool
  size : Nat
  enough : Nat
  shown : Nat
  printed : Nat
  gathered : List (Octets × Except IoError Octets)
  gathering : Option Gathering
  ran : List Utility.Ran
  calling : Option Calling
  follows : Bool
  guarding : Option Guarding
  afterPause : Option Nat

namespace Job

def start (name : String) (args : List Octets) (environment : List (Octets × Octets))
    (before : FileTree) : Job where
  name
  args
  environment
  before
  input := []
  inputEnded := false
  inputFailure := none
  wantsInput := false
  size := 0
  enough := 0
  shown := 0
  printed := 0
  gathered := []
  gathering := none
  ran := []
  calling := none
  follows := false
  guarding := none
  afterPause := none

end Job

inductive Running where
  | shell (i : Shell.Interpreter)
  | job (j : Job)

/-- A process that opens a named pipe waits until the pipe has been opened from the other side more
often than it had when the process came. -/
structure Rendezvous where
  pipe : Nat
  forWriter : Bool
  seen : Nat
  deriving DecidableEq, Repr

structure Process where
  id : Nat
  parent : Nat
  group : Nat
  channels : Channels
  directory : Location
  mask : Nat
  allowances : Allowances
  niceness : Int
  wakesAt : Nat
  waits : List Rendezvous
  stopped : Bool
  ignored : List Signal
  caught : List Signal
  running : Running

/-- Times are in microseconds. -/
structure Machine where
  clock : Nat
  tree : FileTree
  processes : List Process
  files : List (Nat × OpenFile)
  /-- What open files hold that have no place in the tree any more, by their numbers. -/
  orphans : List (Nat × Content)
  pipes : List (Nat × Pipe)
  /-- The pipes that are read from outside. -/
  outside : List Nat
  ended : List (Nat × ExitStatus)
  /-- The processes started from outside whose ends have not been noticed there. -/
  awaited : List Nat
  nextId : Nat

namespace Process

def catches (p : Process) (s : Signal) : Bool :=
  match p.running with
  | .shell i => !s.isSovereign && !p.ignored.contains s && i.traps.any fun (e, _) => e = .signal s
  | .job _ => false

/-- The process with a signal that has come.  A signal that comes again before the process has done
something about it counts once, except that the extended dialect counts the children that end,
but not while it is about one of them. -/
def receiving (p : Process) (s : Signal) : Process :=
  let counts (i : Shell.Interpreter) : Bool := i.vars.isExtended && s = .childEnded
  let isBusy (i : Shell.Interpreter) : Bool := i.tasks.any fun t => match t with
    | .afterTrap _ (.signal t) => counts i && t = s
    | _ => false
  match p.running with
  | .shell i =>
      if isBusy i || (p.caught.contains s && !counts i) then p
      else
        let earlier := p.caught.filter (·.number ≤ s.number)
        { p with caught := earlier ++ s :: p.caught.filter (s.number < ·.number) }
  | .job _ => p

end Process

namespace Machine

def epoch : Nat := 1767225600 * 1000000

/-- How long the machine has been up when it is first looked at, in microseconds. -/
def startClock : Nat := 3600 * 1000000

def start (tree : FileTree) : Machine where
  clock := startClock
  tree := tree.agedTo (epoch + startClock - 50000)
  processes := []
  files := []
  orphans := []
  pipes := []
  outside := []
  ended := []
  awaited := []
  nextId := 4000

def now (m : Machine) : Nat := epoch + m.clock

def freshId (m : Machine) : Nat × Machine := (m.nextId, { m with nextId := m.nextId + 1 })

/-! ## Processes -/

def process? (m : Machine) (id : Nat) : Option Process := m.processes.find? (·.id = id)

def isAlive (m : Machine) (id : Nat) : Bool := m.processes.any (·.id = id)

/-- A number that no new process can get: a process or a group has it, or someone outside has still
to notice the end of the process that had it. -/
def isTaken (m : Machine) (id : Nat) : Bool :=
  m.awaited.contains id || m.processes.any fun p => p.id = id || p.group = id

/-- The file that says which number a process was given last.  Whoever writes to it decides which
one is given next. -/
def lastNumberPlace : Location := ["proc", "sys", "kernel", "ns_last_pid"]

def numberContent (id : Nat) : Content := .bytes (Octets.toBytes (Nat.toDigits 10 id ++ ['\n']))

/-- The number that a process was given last. -/
def lastNumber (m : Machine) : Nat :=
  match m.tree.find lastNumberPlace with
  | some (.file content) =>
      (Octets.ofBytes content.data).takeWhile Char.isDigit |>.foldl
        (fun n d => 10 * n + (d.toNat - '0'.toNat)) 0
  | _ => 0

def setLastNumber (m : Machine) (id : Nat) : Machine :=
  match m.tree.node? lastNumberPlace with
  | some node => { m with tree := m.tree.rewrite node.stamp.number (numberContent id) }
  | none => m

/-- The first number that is not taken, of so many from one on. -/
def freeFrom? (m : Machine) (first : Nat) : Nat → Option Nat
  | 0 => none
  | count + 1 => if m.isTaken first then m.freeFrom? (first + 1) count else some first

/-- A number above all that are taken. -/
def beyondTaken (m : Machine) : Nat :=
  (m.awaited ++ m.processes.flatMap fun p => [p.id, p.group]).foldr max 0 + 1

def numberLimit : Nat := 32768

def firstNumber : Nat := 300

/-- A number for a new process: the next free one behind that given last.  Behind the last of all
the numbers begin anew, and what is known of an earlier process of that number is forgotten. -/
def freshNumber (m : Machine) : Nat × Machine :=
  let last := m.lastNumber
  let id := (m.freeFrom? (last + 1) (numberLimit - (last + 1)) <|>
    m.freeFrom? firstNumber (numberLimit - firstNumber)).getD m.beyondTaken
  (id, { m.setLastNumber id with ended := m.ended.filter (·.1 != id) })

/-- Puts a process in the place of the one with the same number, in the group of that one. -/
def update (m : Machine) (p : Process) : Machine :=
  { m with processes := m.processes.map fun q =>
      if q.id = p.id then { p with group := q.group } else q }

/-- Gives a process a group of its own. -/
def regroup (m : Machine) (id : Nat) : Machine :=
  { m with processes := m.processes.map fun q => if q.id = id then { q with group := id } else q }

/-- Adds the child of a process, made from its number, to the group of its parent. -/
def addChild (m : Machine) (parent : Nat) (child : Nat → Process) : Nat × Machine :=
  let (id, m) := m.freshNumber
  match m.process? parent with
  | some p =>
      (id, { m with processes := m.processes ++ [{ child id with id, parent, group := p.group }] })
  | none => (id, m)

/-- The number that processes started from outside have as their parent. -/
def outsider : Nat := 1

/-- Adds a process from outside, made from its number, as the leader of a group of its own. -/
def addLeader (m : Machine) (leader : Nat → Process) : Nat × Machine :=
  let (id, m) := m.freshNumber
  (id, { m with
    processes := m.processes ++ [{ leader id with id, parent := outsider, group := id }]
    awaited := id :: m.awaited })

/-- Notices outside that a process has ended, if it has. -/
def noticeEnd (m : Machine) (id : Nat) : Machine :=
  if m.isAlive id then m else { m with awaited := m.awaited.filter (· != id) }

/-- The processes of a machine, with all the rest from another one. -/
def inWorld (m world : Machine) : Machine :=
  { world with processes := m.processes, awaited := m.awaited }

def rotate (m : Machine) (id : Nat) : Machine :=
  { m with processes := m.processes.filter (·.id != id) ++ m.processes.filter (·.id = id) }

/-- Ends a process.  Its parent may catch that. -/
def finish (m : Machine) (id : Nat) (status : ExitStatus) : Machine :=
  match m.process? id with
  | none => m
  | some p =>
      let m := { m with
        processes := m.processes.filter (·.id != id), ended := (id, status) :: m.ended }
      match m.process? p.parent with
      | some parent => if parent.catches .childEnded then m.update (parent.receiving .childEnded) else m
      | none => m

def isWriteEnd (pipe : Nat) : Channel → Bool
  | .pipeEnd p _ writes => p = pipe && writes
  | .file _ => false

def isReadEnd (pipe : Nat) : Channel → Bool
  | .pipeEnd p reads _ => p = pipe && reads
  | .file _ => false

/-- The channels that a process holds, those that a program reads from by name among them. -/
def held (p : Process) : List Channel :=
  let gathered : List Channel := match p.running with
    | .job j => (j.gathering.map Gathering.channel).toList
    | .shell _ => []
  gathered ++ p.channels.map Prod.snd

def hasWriter (m : Machine) (pipe : Nat) : Bool :=
  m.processes.any fun p => (held p).any (isWriteEnd pipe)

def hasReader (m : Machine) (pipe : Nat) : Bool :=
  m.outside.contains pipe || m.processes.any fun p => (held p).any (isReadEnd pipe)

def entry? (m : Machine) (number : Nat) : Option Entry :=
  match m.tree.withNumber? number with
  | some n => some n.entry
  | none => (m.orphans.lookup number).map .file

/-- Puts another tree in the place of the one that is there.  Files that are open keep what they
hold when they lose their places. -/
def setTree (m : Machine) (t : FileTree) : Machine :=
  let lost := m.files.filterMap fun (_, f) =>
    if (t.withNumber? f.number).isSome || (m.orphans.lookup f.number).isSome then none
    else match m.tree.withNumber? f.number with
      | some ⟨_, .file content, _⟩ => some (f.number, content)
      | _ => none
  { m with tree := t, orphans := lost ++ m.orphans }

def tidy (m : Machine) : Machine :=
  let held := m.processes.flatMap held
  let files := m.files.filter fun (id, _) => held.any fun c => c = .file id
  { m with
    files
    orphans := m.orphans.filter fun (number, _) => files.any fun f => f.2.number = number
    pipes := m.pipes.filter fun (id, _) => m.outside.contains id || held.any fun c =>
      match c with
      | .pipeEnd p _ _ => p = id
      | .file _ => false }

end Machine

end Conformance
