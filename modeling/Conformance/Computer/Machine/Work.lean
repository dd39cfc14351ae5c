import Conformance.Computer.Machine.Turn

/-!
# Programs at work

A process that runs an installed program asks it again and again for an answer, and does what the
answer says: it reads more, prints, waits, runs other programs, and ends.
-/

namespace Conformance

namespace Job

open Act

/-! ## Reading -/

def takeInput (j : Job) : Act Unit := do
  let failed (e : Errno) : Job :=
    { j with inputEnded := true, wantsInput := false, inputFailure := some (.os e) }
  let next : Job ← match (← channels).get? 0 with
    | none => pure (failed Machine.badDescriptor)
    | some channel => do
        let (got, m) := (← machine).read channel
        setWorld m
        pure <| match got with
          | .later => j
          | .data s =>
              let size := j.size + s.length
              { j with input := s :: j.input, size, wantsInput := decide (size < j.enough) }
          | .ended => { j with inputEnded := true, wantsInput := false }
          | .refused e => failed e
  modifyJob fun _ => next

/-- A program that needs more looks at little input whenever more has come, but at much input only
when it has doubled. -/
def nextLook (size : Nat) : Nat := if size < 65536 then size + 1 else 2 * size

def beginGathering (file : Octets) : Act Unit := do
  let p ← process
  let m ← machine
  let done (result : Except IoError Octets) : Act Unit :=
    modifyJob fun j => { j with gathered := (file, result) :: j.gathered }
  match Utility.deviceDescriptor? file with
  | some n =>
      match p.channels.get? n with
      | none => done (.error (.os .noEntry))
      | some channel => do
          let (channel, m) := m.openDevice channel .read
          setWorld m
          modifyJob fun j => { j with gathering := some ⟨file, channel, []⟩ }
  | none =>
      match m.openPath p.directory p.mask (Utility.pathOf file) .read with
      | .error e => done (.error e)
      | .ok opened => do
          setWorld opened.machine
          modifyJob fun j => { j with gathering := some ⟨file, opened.channel, []⟩ }
          modifyProcess fun p => { p with waits := opened.meeting.toList ++ p.waits }

def gather (g : Gathering) : Act Unit := do
  let (got, m) := (← machine).read g.channel
  setWorld m
  let finish (result : Except IoError Octets) : Act Unit :=
    modifyJob fun j => { j with gathering := none, gathered := (g.file, result) :: j.gathered }
  match got with
  | .later => return
  | .data s => modifyJob fun j => { j with gathering := some { g with taken := s :: g.taken } }
  | .ended => finish (.ok g.taken.reverse.flatten)
  | .refused e => finish (.error (.os e))

/-! ## Printing -/

/-- Prints all but what has been printed before, and tells whether all could be printed to standard
output. -/
def printAll (j : Job) (prints : List Utility.Print) : Act Bool := do
  let mut fine := true
  let mut shown := j.shown
  for p in prints.drop j.printed do
    if p.descriptor = 1 then
      let failure? ← tryWrite 1 (p.text.drop shown)
      shown := shown - p.text.length
      fine := fine && failure?.isNone
    else write p.descriptor p.text
  return fine

def fail (j : Job) (message : Octets) (n : Nat) : Act Unit := do
  write 2 (j.name.toList ++ ": ".toList ++ message ++ ['\n'])
  finish (.code n)

/-! ## Running other programs -/

def imageFor (j : Job) (wide : Bool) (dir : Location) (args : List Octets)
    (environment : List (Octets × Octets)) : Act (Except (Octets × Nat) (String × List Octets)) := do
  let search := (environment.lookup "PATH".toList).getD Launch.lastSearch
  match Launch.withRoom args environment
      (Launch.imageOrScript (← machine).tree dir search none "sh" args) with
  | .ok image => return .ok image
  | .error e => return .error (Utility.Launching.refusal j.name wide (args.headD []) e)

def spawn (channels : Channels) (name : String) (argv : List Octets)
    (environment : List (Octets × Octets)) : Act Nat := do
  let p ← process
  let id ← addChild fun _ => { p with channels }
  inside id (become name argv environment)
  spend 150
  return id

/-- Goes on as another program.  A process that leads its group and is to have one of its own leaves
that to a new process. -/
def turnInto (j : Job) (wide : Bool) (r : Utility.Replacement) : Act Unit := do
  match ← imageFor j wide r.directory r.args r.environment with
  | .error (message, n) => do
      write 2 (message ++ ['\n'])
      finish (.code n)
  | .ok (name, argv) => do
      modifyProcess fun p => { p with
        directory := r.directory
        ignored := r.ignored ++ p.ignored
        niceness := r.niceness }
      let p ← process
      match r.apart with
      | none => become name argv r.environment
      | some waits =>
          if p.id = p.group then do
            let id ← spawn p.channels name argv r.environment
            inside id regroup
            if waits then modifyJob fun j => { j with calling := some ⟨id, none⟩, follows := true }
            else finish (.code 0)
          else do
            regroup
            become name argv r.environment

def call (j : Job) (wide : Bool) (c : Utility.Call) : Act Unit := do
  let p ← process
  match ← imageFor j wide p.directory c.args c.environment with
  | .error (message, n) => do
      write 2 (message ++ ['\n'])
      let tree := (← machine).tree
      modifyJob fun j => { j with ran := j.ran ++ [⟨.code n, [], tree⟩] }
  | .ok (name, argv) => do
      let mut own := p.channels
      match c.input with
      | none => pure ()
      | some text => do
          let (pipe, m) := (← machine).pipeWith text
          setWorld m
          own := own.put 0 (.pipeEnd pipe true false)
      let mut pipe? : Option Nat := none
      if c.captures then do
        let (pipe, m) := (← machine).newPipe
        setWorld { m with outside := pipe :: m.outside }
        own := own.put 1 (.pipeEnd pipe false true)
        pipe? := some pipe
      let id ← spawn own name argv c.environment
      modifyJob fun j => { j with calling := some ⟨id, pipe?⟩ }

def endCall (j : Job) (c : Calling) : Act Unit := do
  let m ← machine
  let status := (m.ended.lookup c.process).getD (.code 0)
  if j.follows then finish (.code status.toNat)
  else do
    let output ← match c.pipe with
      | none => pure []
      | some pipe => do
          let (got, m) := m.read (.pipeEnd pipe true false)
          setWorld { m with outside := m.outside.filter (· != pipe) }
          pure (match got with
            | .data s => s
            | _ => [])
    let tree := (← machine).tree
    modifyJob fun j => { j with calling := none, ran := j.ran ++ [⟨status, output, tree⟩] }

/-! ## Watching a command -/

/-- Runs a command that is not to take too long.  Both get a group of their own. -/
def guard (j : Job) (wide : Bool) (args : List Octets) (limit : Utility.Limit) : Act Unit := do
  let p ← process
  match ← imageFor j wide p.directory args j.environment with
  | .error (message, n) => do
      write 2 (message ++ ['\n'])
      finish (.code n)
  | .ok (name, argv) => do
      if !limit.foreground then regroup
      let id ← spawn p.channels name argv j.environment
      let now := (← machine).clock
      let deadline := if limit.micros = 0 then none else some (now + limit.micros)
      modifyJob fun j => { j with guarding := some ⟨id, limit, deadline, false, false⟩ }

/-- Sends the signal for a command that has taken too long, and to its group as well. -/
def interrupt (g : Guarding) (s : Signal) : Act Unit := do
  let p ← process
  if !s.isSovereign then modifyProcess fun p => { p with ignored := s :: p.ignored }
  deliver s g.process
  if !g.limit.foreground then
    let _ ← send (← process) s (-(p.group : Int))
  deliver .resume g.process

def watch (g : Guarding) : Act Unit := do
  let m ← machine
  if m.isAlive g.process then
    if g.deadline.any (· ≤ m.clock) then do
      let s := if g.timedOut then Signal.kill else g.limit.signal
      let deadline := if g.timedOut then none else g.limit.grace.map (m.clock + ·)
      modifyJob fun j => { j with guarding := some { g with timedOut := true, deadline } }
      interrupt g s
  else match m.ended.lookup g.process with
    | some (.signal s) =>
        if !g.timedOut then finish (.signal s)
        else finish (.code (if s = .kill || g.limit.keepsStatus then 128 + s.number else 124))
    | some (.code n) => finish (.code (if g.timedOut && !g.limit.keepsStatus then 124 else n))
    | none => finish (.code 0)

/-! ## Answers -/

/-- Takes over the tree that a program has made, with its files only as long as the process may write
them, and tells whether none was longer. -/
def takeTree (tree : FileTree) : Act Bool := do
  let tree := Machine.unviewed tree
  match (← process).allowances.fileSize? with
  | none => do
      modifyWorld fun m => m.setTree tree
      return true
  | some length => do
      let grown := tree.grownPast (← machine).tree length
      modifyWorld fun m => m.setTree (tree.cutAt length grown)
      return grown.isEmpty

def answer (j : Job) (wide : Bool) (a : Utility.Answer) : Act Unit := do
  match a with
  | .more => modifyJob fun j => { j with wantsInput := true, enough := nextLook j.size }
  | .ends r => do
      let fits ← takeTree r.tree
      let fine ← printAll j r.prints
      if fits then finish (.code (if fine then r.status else max 1 r.status))
      else finish (.signal .fileTooLong)
  | .pause s micros => do
      write 1 s
      let now := (← machine).clock
      modifyProcess fun p => { p with wakesAt := now + micros }
      modifyJob fun j => { j with afterPause := some 0 }
  | .goesOn s => do
      write 1 s
      spend 150
  | .passesOn s => do
      write 1 s
      modifyJob fun j => { j with input := [], size := 0, enough := 0, wantsInput := true }
  | .shows s => do
      write 1 (s.drop j.shown)
      modifyJob fun j =>
        { j with shown := s.length, wantsInput := true, enough := nextLook j.size }
  | .becomes r => turnInto j wide r
  | .signals s targets => do
      let p ← process
      let mut reached := true
      for n in targets do
        let one ← send p s n
        reached := reached && one
      if reached then finish (.code 0) else fail j "sending signal failed: No such process".toList 1
  | .gathers file => beginGathering file
  | .calls prints tree c => do
      modifyWorld fun m => m.setTree (Machine.unviewed tree)
      let _ ← printAll j prints
      modifyJob fun j => { j with printed := prints.length }
      call j wide c
  | .guards args limit => guard j wide args limit

def context (j : Job) (m : Machine) (p : Process) : Utility.Context where
  args := j.args
  environment := j.environment
  tree := m.view p.channels m.tree
  before := m.view p.channels j.before
  directory := p.directory
  input := j.input.reverse.flatten
  inputEnded := j.inputEnded
  inputFailure := j.inputFailure
  group := p.group
  id := p.id
  parent := p.parent
  mask := p.mask
  now := m.now
  gathered := j.gathered
  ran := j.ran
  descriptors := p.channels.map fun (n, channel) => (n, m.placeOf channel)
  niceness := p.niceness

def step (j : Job) : Act Unit := do
  spend 40
  match j.afterPause, j.calling, j.guarding, j.gathering with
  | some n, _, _, _ => finish (.code n)
  | none, some c, _, _ => endCall j c
  | none, none, some g, _ => watch g
  | none, none, none, some g => gather g
  | none, none, none, none =>
      if j.wantsInput then takeInput j
      else match Utility.program? j.name with
        | none => finish (.code 127)
        | some program => do
            let context := context j (← machine) (← process)
            answer j context.isWide (program context)

end Job

end Conformance
