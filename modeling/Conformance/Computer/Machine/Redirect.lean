import Conformance.Computer.Machine.Turn
import Conformance.Computer.Shell.Assignment

/-!
# Redirections

A redirection opens a file, or makes a descriptor lead where another one leads.  What it replaces is
kept under numbers that no script uses, until the command is done.
-/

namespace Conformance

namespace Machine

/-- The machine and the descriptors of a process while redirections are made. -/
structure Redirecting where
  machine : Machine
  channels : Channels
  meetings : List Rendezvous

def openComplaint (extended reads : Bool) (target : Octets) (e : IoError) : Octets :=
  if extended then target ++ ": ".toList ++ Utility.errorText e
  else
    let missing := e = .os .noEntry || e = .os .notDirectory
    let reason : Octets := if missing then
        (if reads then "No such file" else "Directory nonexistent").toList
      else Utility.errorText e
    (if reads then "cannot open ".toList else "cannot create ".toList) ++ target ++
      ": ".toList ++ reason

def openTarget (r : Redirecting) (v : Shell.Variables) (p : Process) (descriptor : Nat)
    (target : Octets) (mode : OpenMode) : Except Octets Redirecting :=
  match (Utility.deviceDescriptor? target).map r.channels.get? with
  | some (some channel) =>
      let (channel, m) := r.machine.openDevice channel mode
      .ok { r with machine := m, channels := r.channels.put descriptor channel }
  | some none =>
      .error (openComplaint v.isExtended (mode = .read) target (.os .noEntry))
  | none =>
      match r.machine.openPath p.directory p.mask (Utility.pathOf target) mode with
      | .ok opened => .ok
          { machine := opened.machine
            channels := r.channels.put descriptor opened.channel
            meetings := opened.meeting.toList ++ r.meetings }
      | .error e => .error (openComplaint v.isExtended (mode = .read) target e)

def isProtected (m : Machine) (v : Shell.Variables) (p : Process) (target : Octets) : Bool :=
  v.has 'C' && m.tree.isRegularFile p.directory (Utility.pathOf target)

def redirectOne (v : Shell.Variables) (p : Process) (r : Redirecting) (a : Shell.Aimed) :
    Except Octets Redirecting :=
  let n := a.descriptor
  let target := a.target
  let writing : Except Octets Unit :=
    if isProtected r.machine v p target then
      .error (if v.isExtended then target ++ ": cannot overwrite existing file".toList
        else "cannot create ".toList ++ target ++ ": File exists".toList)
    else .ok ()
  let both (mode : OpenMode) : Except Octets Redirecting := do
    let opened ← openTarget r v p 1 target mode
    match opened.channels.get? 1 with
    | some channel => return { opened with channels := opened.channels.put 2 channel }
    | none => return opened
  if a.isAmbiguous then .error (target ++ ": ambiguous redirect".toList)
  else match a.kind with
  | .read => openTarget r v p n target .read
  | .write => do
      writing
      openTarget r v p n target .write
  | .overwrite => openTarget r v p n target .write
  | .append => openTarget r v p n target .append
  | .readWrite => openTarget r v p n target .readWrite
  | .writeBoth => do
      writing
      both .write
  | .appendBoth => both .append
  | .here | .hereWord =>
      let text := if a.kind = .hereWord then target ++ ['\n'] else target
      let (pipe, m) := r.machine.pipeWith text
      .ok { r with machine := m, channels := r.channels.put n (.pipeEnd pipe true false) }
  | .duplicateInput | .duplicateOutput =>
      let moves := v.isExtended && target.getLast? == some '-' && target.length > 1
      let source := if moves then target.dropLast else target
      if target = ['-'] then .ok { r with channels := r.channels.close n }
      else match Utility.readNat? source with
        | some k =>
            match r.channels.get? k with
            | some channel =>
                let channels := r.channels.put n channel
                .ok { r with channels := if moves && k != n then channels.close k else channels }
            | none => .error (source ++ ": Bad file descriptor".toList)
        | none =>
            if !v.isExtended then .error "Syntax error: Bad fd number".toList
            else if a.kind = .duplicateOutput && n = 1 then do
              writing
              both .write
            else .error (target ++ ": ambiguous redirect".toList)

end Machine

namespace Shell

open Act

def isMisled (a : Aimed) : Bool :=
  (a.kind = .duplicateInput || a.kind = .duplicateOutput) &&
    match a.target with
    | [c] => c != '-' && !c.isDigit
    | _ => true

def textOf? (v : Variables) (x : Octets) : Option Octets :=
  match nameAndIndex x with
  | (x, .at [.text key _]) => (v.lookup? x).bind fun value => value.entries.lookup key
  | (x, _) => v.value? x

def withText (v : Variables) (x s : Octets) : Variables :=
  let act : Expand Unit := match nameAndIndex x with
    | (x, .at [.text key _]) => Expand.assignItem x key false s
    | (x, _) => Expand.assignText x false s
  match act.run ⟨v, []⟩ with
  | .ok (_, e) => e.vars
  | .error _ => v

/-- A redirection for a new descriptor becomes one for a number: that of the first free one, or the
one that a variable holds if it is to be closed.  Also gives the variables with that number. -/
def settleHolder (v : Variables) (present : Channels) (a : Aimed) : Variables × Aimed :=
  match a.holder with
  | none => (v, a)
  | some x =>
      if (a.kind = .duplicateInput || a.kind = .duplicateOutput) && a.target = ['-'] then
        (v, { a with descriptor := ((textOf? v x).bind Utility.readNat?).getD 1000000 })
      else
        let free := ((List.range 1000).find? fun n => 10 ≤ n && (present.get? n).isNone).getD 1000
        (withText v x (Octets.ofNat free), { a with descriptor := free })

def redirectAll (p : Process) (v : Variables) (r : Machine.Redirecting) :
    List Aimed → Except Octets (Variables × Machine.Redirecting)
  | [] => .ok (v, r)
  | a :: rest => do
      let (v, a) := settleHolder v r.channels a
      redirectAll p v (← Machine.redirectOne v p r a) rest

/-- Makes redirections; tells whether all could be made. -/
def redirect (redirections : List Aimed) : Act Bool := do
  let p ← process
  let v ← vars
  if !v.isExtended && redirections.any isMisled then do
    complain "Syntax error: Bad fd number".toList
    exitShell 2
    return false
  match redirectAll p v ⟨← machine, p.channels, []⟩ redirections with
  | .ok (v, r) => do
      setWorld r.machine
      if redirections.any fun a => a.holder.isSome then modifyVariables fun _ => v
      modifyProcess fun p => { p with channels := r.channels, waits := r.meetings ++ p.waits }
      return true
  | .error message => do
      complain message
      return false

def touched (a : Aimed) : List Nat :=
  if a.holder.isSome then [] else
  match a.kind with
  | .writeBoth | .appendBoth => [1, 2]
  | .duplicateOutput =>
      a.descriptor :: (if a.target.all Char.isDigit then [] else [2]) ++
        ((Utility.readNat? a.target.dropLast).filter fun _ => a.target.getLast? == some '-').toList
  | .duplicateInput =>
      a.descriptor ::
        ((Utility.readNat? a.target.dropLast).filter fun _ => a.target.getLast? == some '-').toList
  | _ => [a.descriptor]

/-- Makes redirections that are undone when the tasks put on the list from here on are done. -/
def redirectFor (redirections : List Aimed) : Act Bool := do
  if redirections.isEmpty then return true
  else do
    let before ← channels
    if ← redirect redirections then do
      let mut saved : List (Nat × Option Nat) := []
      for n in (redirections.flatMap touched).eraseDups do
        match before.get? n with
        | none => saved := (n, none) :: saved
        | some channel => do
            let (hidden, m) := (← machine).freshId
            setWorld m
            setChannel hidden channel
            saved := (n, some hidden) :: saved
      push (.restore saved)
      return true
    else return false

def isWaiting : Act Bool := do
  let m ← machine
  return (← process).waits.any m.isAwaited

end Shell

end Conformance
