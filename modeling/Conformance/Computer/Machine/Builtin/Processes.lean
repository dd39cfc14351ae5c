import Conformance.Computer.Machine.Builtin.Basic

/-!
# Builtins for signals and other processes
-/

namespace Conformance

namespace Shell

namespace Builtin

open Act

/-! ## Traps -/

def parseSignal? (extended : Bool) (s : Octets) : Option Signal :=
  if extended then Signal.parse? s else Signal.parsePlain? s

def parseEvent? (extended : Bool) (s : Octets) : Option Event :=
  match parseSignal? extended s with
  | some ⟨0⟩ => some .exit
  | some s => some (.signal s)
  | none =>
      let upper := s.map Char.toUpper
      if !extended then none
      else if upper = "ERR".toList then some .failure
      else if upper = "DEBUG".toList then some .command
      else if upper = "RETURN".toList then some .leaving
      else none

/-- Where an event stands among the others. -/
def rank : Event → Nat
  | .exit => 0
  | .signal s => s.number
  | .command => 65
  | .failure => 66
  | .leaving => 67

def eventName (extended : Bool) : Event → Octets
  | .exit => "EXIT".toList
  | .signal s => (if extended then "SIG".toList else []) ++ s.name
  | .command => "DEBUG".toList
  | .failure => "ERR".toList
  | .leaving => "RETURN".toList

/-- Sets what is done about an event: nothing, a script, or what is done without a trap.  For a
signal that stays ignored the plain dialect only notes it. -/
def setTrap (action : Option Octets) (e : Event) : Act Unit := do
  let i ← shell
  let stays := match e with
    | .signal s => i.steadfast.contains s
    | _ => false
  if !stays || !i.vars.isExtended then
    modifyShell fun i =>
      let others := i.traps.filter (·.1 != e)
      { i with traps := match action with
        | some script => others ++ [(e, script)]
        | none => others }
  match e, stays with
  | .signal s, false => modifyProcess fun p =>
      let others := p.ignored.filter (· != s)
      { p with ignored := if action = some [] then s :: others else others }
  | _, _ => return

/-- The value in single quotes, with an escape for those inside. -/
def singleQuoted (s : Octets) : Octets :=
  '\'' :: s.flatMap (fun c => if c == '\'' then "'\\''".toList else [c]) ++ ['\'']

def showTraps (c : Call) (names : List Octets) : Act Unit := do
  let i ← shell
  let extended := i.vars.isExtended
  let steadfast : List (Event × Octets) :=
    if extended then i.steadfast.map fun s => (.signal s, []) else []
  let chosen := (steadfast ++ i.traps).filter fun (e, _) =>
    names.isEmpty || names.any fun n => parseEvent? extended n = some e
  let ordered := chosen.mergeSort fun a b => decide (rank a.1 ≤ rank b.1)
  printWith c (ordered.flatMap fun (e, action) =>
    "trap -- ".toList ++ (if extended then singleQuoted action else quote action) ++
      ' ' :: eventName extended e ++ ['\n']) 0

def signalTable : Octets :=
  let cells := (List.range 64).filterMap fun n =>
    if n = 31 || n = 32 then none
    else some (Utility.padLeft 2 (Octets.ofNat (n + 1)) ++ ") SIG".toList ++ Signal.name ⟨n + 1⟩)
  ((Utility.Launching.pieces 20 5 cells).map fun row =>
    Utility.joinWith ['\t'] row ++ ['\n']).flatten

def trapAll (c : Call) (action : Option Octets) : List Octets → Act Unit
  | [] => return
  | name :: rest => do
      let extended ← isExtended
      match parseEvent? extended name with
      | some e => do
          setTrap action e
          trapAll c action rest
      | none =>
          if extended then do
            complain ("trap: ".toList ++ name ++ ": invalid signal specification".toList)
            setStatus 1
            trapAll c action rest
          else do
            note c (name ++ ": bad trap".toList)
            setStatus 1

def trapCommand (c : Call) : Act Unit :=
  withLetters { c with args := if c.args.head? = some ['-'] then "--".toList :: c.args else c.args }
      "" "lp" "trap [-lp] [[arg] signal_spec ...]" fun letters args => do
    let extended ← isExtended
    if letters.contains 'l' then do
      printWith c signalTable 0
    else if letters.contains 'p' || args.isEmpty then showTraps c args
    else do
      setStatus 0
      match args with
      | [name] =>
          if extended && name != ['-'] && (parseEvent? extended name).isNone then do
            note c "usage: trap [-lp] [[arg] signal_spec ...]".toList
            setStatus 2
          else trapAll c none [name]
      | action :: names =>
          if action = ['-'] then trapAll c none names
          else if (Signal.numbered? action).isSome then trapAll c none args
          else trapAll c (some action) names
      | [] => return

/-! ## Jobs -/

/-- The job that a percent sign and a word name. -/
def jobNamed? (jobs : List BackgroundJob) (s : Octets) : Option (Nat × BackgroundJob) :=
  let numbered := jobs.zipIdx.map fun (j, n) => (n + 1, j)
  match s with
  | '%' :: word =>
      if word.isEmpty || word = ['%'] || word = ['+'] then numbered.getLast?
      else if word = ['-'] then (numbered.dropLast.getLast?).orElse fun _ => numbered.getLast?
      else match Utility.readNat? word with
        | some n => numbered.find? fun j => j.1 = n
        | none => none
  | _ => none

/-- Waits for the given processes, or for all that run in the background. -/
def waitCommand (c : Call) : Act Unit :=
  withLetters c "" "nfp" "wait [-fn] [-p var] [id ...]" fun letters args => do
    let i ← shell
    let extended := i.vars.isExtended
    let own := i.jobs.filter fun j => !j.inherited
    let m ← machine
    if letters.contains 'n' then do
      let ids := if args.isEmpty then own.filterMap fun j => if j.waited then none else some j.last
        else args.filterMap Utility.readNat?
      if ids.isEmpty then setStatus 127 else push (.awaitAny ids)
    else match args with
    | [] => do
        setStatus 0
        push (.await (own.flatMap BackgroundJob.processes) none true)
    | args => do
        let found := args.map fun a =>
          match a with
          | '%' :: _ => (a, ((jobNamed? own a).map fun j => j.2.last : Option Nat))
          | _ => (a, (Utility.readNat? a).filter fun id => own.any fun j => j.last = id)
        let bad := found.find? fun (a, _) => a.head? != some '%' && (Utility.readNat? a).isNone
        let lost := found.find? fun (a, id?) => a.head? == some '%' && id?.isNone
        match bad, lost with
        | some (a, _), _ => do
            fail c ("Illegal number: ".toList ++ a)
              (quotedInMessage a ++ ": not a pid or valid job spec".toList) 1
        | none, some (a, _) =>
            if extended then failWith c (a ++ ": no such job".toList) 127
            else failWith c ("No such job: ".toList ++ a) 2
        | none, none => do
            if extended then
              for (a, id?) in found do
                if id?.isNone then
                  complain (c.name ++ ": pid ".toList ++ a ++ " is not a child of this shell".toList)
            let ids := found.filterMap Prod.snd
            match found.getLast? with
            | some (_, some id) => push (.await ids (some id) true)
            | _ =>
                if ids.any m.isAlive then push (.await ids none true)
                else setStatus 127

def jobsCommand (c : Call) : Act Unit :=
  withLetters c "lp" "lnprs" "jobs [-lnprs] [jobspec ...]" fun letters _ => do
    let i ← shell
    let m ← machine
    let extended := i.vars.isExtended
    let numbered := i.jobs.zipIdx
    let mark (n : Nat) : Char :=
      if n + 1 = i.jobs.length then '+' else if n + 2 = i.jobs.length then '-' else ' '
    let text := numbered.flatMap fun (j, n) =>
      let alive := j.processes.any m.isAlive
      if letters.contains 'p' then Octets.ofNat (j.processes.headD 0) ++ ['\n']
      else if extended && !alive then []
      else if letters.contains 'r' && !alive then []
      else
        let state : Octets := if alive then "Running".toList
          else match m.ended.lookup j.last with
            | some (.code 0) | none => "Done".toList
            | some (.code k) =>
                if extended then "Exit ".toList ++ Octets.ofNat k
                else "Done(".toList ++ Octets.ofNat k ++ [')']
            | some (.signal s) => if s = .terminate then "Terminated".toList
                else if s = .kill then "Killed".toList else s.name
        let id : Octets := if letters.contains 'l' then
            Octets.ofNat (j.processes.headD 0) ++ [' '] else []
        '[' :: Octets.ofNat (n + 1) ++ ']' ::
          (if extended then mark n :: ' ' :: ' ' :: id ++ Utility.padRight 24 state ++ j.text ++ " &".toList
          else ' ' :: mark n :: ' ' :: id ++ Utility.padRight 27 state ++ j.text) ++ ['\n']
    let stays (j : BackgroundJob) : Bool := letters.contains 'p' || j.processes.any m.isAlive
    if !extended then modifyShell fun i => { i with jobs := i.jobs.filter stays }
    printWith c text 0

def disownCommand (c : Call) : Act Unit := do
  if c.args.isEmpty || c.args = ["-a".toList] then
    modifyShell fun i => { i with jobs := i.jobs.dropLast }
  else if c.args.head? != some "-h".toList then
    let stays (j : BackgroundJob) : Bool := !c.args.any fun a => Utility.readNat? a = some j.last
    modifyShell fun i => { i with jobs := i.jobs.filter stays }
  setStatus 0

/-! ## Signals -/

/-- Sends a signal to what the arguments name. -/
def killAll (c : Call) (s : Signal) : List Octets → Act Unit
  | [] => return
  | a :: rest => do
      let i ← shell
      let extended := i.vars.isExtended
      let target? : Except Octets (List Int) :=
        if a.head? == some '%' then
          match jobNamed? (i.jobs.filter fun j => !j.inherited) a with
          | some (_, j) =>
              .ok (if extended then j.processes.map Int.ofNat else [-(j.last : Int)])
          | none => .error (if extended then a ++ ": no such job".toList
              else "No such job: ".toList ++ a)
        else match Utility.readInt? a with
          | some n => .ok [n]
          | none => .error (if extended then a ++ ": arguments must be process or job IDs".toList
              else "Illegal number: ".toList ++ (if a.head? == some '-' then a.drop 1 else a))
      match target? with
      | .error message => do
          failWith c message 1
          if extended then killAll c s rest
      | .ok targets => do
          let p ← process
          let mut reached := false
          for n in targets do
            let one ← send p s n
            reached := reached || one
          if !reached then do
            if extended then
              complain (c.name ++ ": (".toList ++ a ++ ") - No such process".toList)
            else complain (c.name ++ ": No such process\n".toList)
            setStatus 1
          killAll c s rest

def killUsage (c : Call) : Act Unit := do
  if ← isExtended then do
    note c ("usage: kill [-s sigspec | -n signum | -sigspec] pid | jobspec ... or " ++
      "kill -l [sigspec]").toList
    setStatus 2
  else failWith c ("Usage: kill [-s sigspec | -signum | -sigspec] [pid | job]... or\n" ++
    "kill -l [exitstatus]").toList 2

def killList (c : Call) (extended : Bool) : List Octets → Act Unit
  | [] =>
      if extended then printWith c signalTable 0
      else printWith c (['0', '\n'] ++ Octets.unlines ((List.range 64).map fun n =>
        if n = 31 || n = 32 || n = 15 then Octets.ofNat (n + 1) else Signal.name ⟨n + 1⟩)) 0
  | a :: _ =>
      match Utility.readNat? a with
      | some n =>
          let n := if n > 128 then n - 128 else n
          if (extended && n = 0) || (0 < n && n ≤ 64) then printWith c (Signal.name ⟨n⟩ ++ ['\n']) 0
          else fail c ("invalid signal number or exit status: ".toList ++ a)
            (a ++ ": invalid signal specification".toList) 1
      | none =>
          if !extended then failWith c ("Illegal number: ".toList ++ a) 2
          else match Signal.parse? a with
            | some s => printWith c (Octets.ofNat s.number ++ ['\n']) 0
            | none => failWith c (a ++ ": invalid signal specification".toList) 1

def killCommand (c : Call) : Act Unit := do
  let extended ← isExtended
  let sendTo (s : Signal) (args : List Octets) : Act Unit := do
    if args.isEmpty then killUsage c
    else do
      setStatus 0
      killAll c s args
  let send (s : Signal) (args : List Octets) : Act Unit :=
    sendTo s (if args.head? = some "--".toList then args.drop 1 else args)
  let named (name : Octets) (args : List Octets) : Act Unit := do
    match parseSignal? extended name with
    | some s => send s args
    | none =>
        fail c ("invalid signal number or name: ".toList ++ name)
          (name ++ ": invalid signal specification".toList) 1
  match c.args with
  | [] => killUsage c
  | ['-', '-'] :: args => send .terminate args
  | ['-', 's'] :: name :: args => named name args
  | ['-', 'l'] :: args => killList c extended args
  | ['-', 'L'] :: args => if extended then killList c extended args else failWith c "Illegal option -L".toList 2
  | ('-' :: name) :: args =>
      match parseSignal? extended name, extended with
      | some s, true => send s args
      -- Behind a number or a name no mark ends the options.
      | some s, false => sendTo s args
      | none, true =>
          if name = ['n'] then
            match args with
            | n :: args => named n args
            | [] => killUsage c
          else failWith c (name ++ ": invalid signal specification".toList) 1
      | none, false =>
          match name.head? with
          | some 's' =>
              if name.length = 1 then failWith c "No arg for -s option".toList 2
              else named (name.drop 1) args
          | some d => failWith c ("Illegal option -".toList ++ [d]) 2
          | none => send .terminate args
  | args => send .terminate args

/-! ## Times -/

def timesCommand (c : Call) : Act Unit := do
  let zero : Octets := if ← isExtended then "0m0.000s".toList else "0m0.000000s".toList
  printWith c (zero ++ ' ' :: zero ++ '\n' :: zero ++ ' ' :: zero ++ ['\n']) 0

end Builtin

end Shell

end Conformance
