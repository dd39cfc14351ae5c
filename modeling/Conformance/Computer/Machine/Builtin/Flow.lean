import Conformance.Computer.Machine.Builtin.Basic

/-!
# Builtins that change the flow

They take tasks from the list of what the shell has to do, or put new ones on it.
-/

namespace Conformance

namespace Shell

namespace Builtin

open Act

def isLoop : Task → Bool
  | .loopTest .. | .loopAgain .. | .next .. | .countingAgain .. | .offer .. => true
  | .expand (.counting ..) _ _ | .expand (.countingTest ..) _ _ => true
  | _ => false

def isReturn : Task → Bool
  | .returnTo .. | .endOfSource .. => true
  | _ => false

def innermostLoop : List Task → Option (List Task × Task × List Task)
  | [] => none
  | t :: rest =>
      if isLoop t then some ([], t, rest)
      else if t matches .returnTo .. then none
      else (innermostLoop rest).map fun (above, loop, below) => (t :: above, loop, below)

def nextTurn : Task → Task
  | .loopTest outcome condition body _ => .loopAgain outcome condition body
  | t => t

/-- Leaves a number of loops, or all there are; the last one may go on. -/
def leaveLoops (goesOn : Bool) : Nat → Act Unit
  | 0 => return
  | n + 1 => do
      match innermostLoop (← shell).tasks with
      | none => return
      | some (above, loop, below) => do
          undoAll above
          if n > 0 && (innermostLoop below).isSome then do
            setTasks below
            leaveLoops goesOn n
          else setTasks (if goesOn then nextTurn loop :: below else below)

def loopCommand (goesOn : Bool) (c : Call) : Act Unit := do
  let extended ← isExtended
  if extended && (innermostLoop (← shell).tasks).isNone then do
    failWith c "only meaningful in a `for', `while', or `until' loop".toList 0
  else match c.args with
  | [] => do
      setStatus 0
      leaveLoops goesOn 1
  | n :: _ =>
      match Utility.readNat? n with
      | some (n + 1) => do
          setStatus 0
          leaveLoops goesOn (n + 1)
      | some 0 => do
          fail c ("Illegal number: ".toList ++ n) (n ++ ": loop count out of range".toList) 1
          if extended then leaveLoops false 1000
      | none =>
          if extended then do
            complain (c.name ++ ": ".toList ++ n ++ ": numeric argument required".toList)
            exitShell 128
          else failWith c ("Illegal number: ".toList ++ n) 1

def askedStatus (args : List Octets) : Act (Option Nat) := do
  match args with
  | [] => do
      -- In the action of a trap, the status before the trap counts.
      let kept? := (← shell).tasks.findSome? fun t => match t with
        | .afterTrap n _ => some n
        | _ => none
      return some (kept?.getD (← status))
  | n :: _ =>
      if ← isExtended then return (Utility.readInt? n).map fun n => (n % 256).toNat
      else return (Utility.readNat? n).filter (· < 2147483648)

def exitCommand (c : Call) : Act Unit := do
  let extended ← isExtended
  let args := if extended && c.args.head? = some "--".toList then c.args.drop 1 else c.args
  match ← askedStatus args with
  | some n =>
      if extended && args.length > 1 then failWith c "too many arguments".toList 1
      else exitShell n
  | none =>
      if extended then do
        complain ("exit: ".toList ++ args.headD [] ++ ": numeric argument required".toList)
        exitShell 2
      else failWith c ("Illegal number: ".toList ++ args.headD []) 2

/-- The status that a return without an argument gives.  In the action of a trap it is the one
before the trap. -/
def returnedStatus (extended : Bool) (tasks above : List Task) : Act Nat := do
  let kept? := (if extended then tasks else above).findSome? fun t => match t with
    | .afterTrap _ .command => none
    | .afterTrap n _ => some n
    | _ => none
  return kept?.getD (← status)

/-- Goes back to where a function or a file was called.  Outside of both the plain dialect ends the
shell, or what is done for its end, and the extended one complains, unless what is done for the
end was begun in a function. -/
def returnCommand (c : Call) : Act Unit := do
  let i ← shell
  let extended := i.vars.isExtended
  let tasks := i.tasks
  let above := tasks.takeWhile fun t => !isReturn t
  let inside := above.length < tasks.length
  let ending := tasks.dropWhile fun t => match t with
    | .afterTrap _ .exit => false
    | _ => true
  if extended && !inside && (ending.isEmpty || !i.isInFunction) then
    failWith c "can only `return' from a function or sourced script".toList 2
  else do
    let asked ← match c.args with
      | [] => do pure (some (← returnedStatus extended tasks above))
      | args => askedStatus args
    match asked with
    | some n =>
        -- In the plain dialect the return itself counts as a command that fails.
        let fails := !extended && n != 0 && watchesFailure i && !shelters i
        if !inside && !ending.isEmpty then do
          setTasks (if extended then [.exit] else ending)
          setStatus n
        else if !inside || fails then exitShell n
        else do
          undoAll above
          setTasks (tasks.drop above.length)
          setStatus n
    | none =>
        if extended then do
          complain ("return: ".toList ++ c.args.headD [] ++ ": numeric argument required".toList)
          undoAll above
          setTasks (tasks.drop above.length)
          setStatus 2
        else failWith c ("Illegal number: ".toList ++ c.args.headD []) 2

def runScript (script : Octets) (line : Nat) : Act Unit := do
  setStatus 0
  push (.script (scanOf (← shell) script line))

/-- Begins to run the commands of a text.  The first of them finds the status that was before; if
there is none, that counts as success. -/
def beginScript (text : Octets) (line : Nat) : Act Unit := do
  let before ← status
  runScript text line
  setStatus before
  match nextCommand (scanOf (← shell) text line) with
  | .ok none => setStatus 0
  | _ => return

def evalCommand (c : Call) : Act Unit := do
  let args := if c.args.head? = some "--".toList then c.args.drop 1 else c.args
  if !args.isEmpty then do
    let v ← vars
    push .endOfEval
    beginScript (Utility.joinWith [' '] args) (if v.isExtended then v.line else 1)
  else setStatus 0

def sourceCommand (c : Call) : Act Unit := do
  let extended ← isExtended
  let args := if c.args.head? = some "--".toList then c.args.drop 1 else c.args
  match args with
  | [] =>
      if extended then do
        complain (c.name ++ ": filename argument required".toList)
        write 2 (c.name ++ ": usage: ".toList ++ c.name ++ " filename [arguments]\n".toList)
        setStatus 2
      else setStatus 0
  | file :: rest => do
      let p ← process
      let tree := (← machine).tree
      let search := ((← vars).value? "PATH".toList).getD []
      let isFile (path : Octets) : Bool :=
        match tree.lookup p.directory (Utility.pathOf path) true with
        | .ok (_, e) => !e.isDirectory
        | .error _ => false
      let found? : Option Octets :=
        if file.contains '/' then some file
        else
          let places := (Utility.splitAt ':' search).map fun place =>
            if place.isEmpty then file else place ++ '/' :: file
          ((if extended then places ++ [file] else places).find? isFile)
      let missing (reason : IoError) : Act Unit := do
        if extended then do
          complain (file ++ ": ".toList ++ Utility.errorText reason)
          setStatus 1
          if (← vars).isSet "posix" then exitShell 1
        else failWith c (Machine.openComplaint false true file reason) 1
      match found? with
      | none =>
          if extended then missing (.os .noEntry)
          else failWith c (file ++ ": not found".toList) 1
      | some path =>
          match tree.read p.directory (Utility.pathOf path) with
          | .error (.os e) =>
              if e = .isDirectory && extended then do
                complain (c.name ++ ": ".toList ++ file ++ ": is a directory".toList)
                setStatus 1
              else if e = .isDirectory then setStatus 0
              else missing (.os e)
          | .error e => missing e
          | .ok data => do
              let old := (← vars).args
              let changes := extended && !rest.isEmpty
              push (.endOfSource path (if changes then some old else none))
              if changes then modifyVariables fun v => { v with args := rest }
              if extended then
                modifyShell fun i =>
                  i.withCallers (⟨Interpreter.sourceName, i.vars.line, path⟩ :: i.callers)
              beginScript (Octets.ofBytes data) 1

end Builtin

end Shell

end Conformance
