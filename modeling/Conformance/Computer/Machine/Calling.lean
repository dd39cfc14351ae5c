import Conformance.Computer.Machine.Builtin
import Conformance.Computer.Machine.Preparation

/-!
# Simple commands

A simple command calls a function, a builtin or an installed program.  Its redirections come first;
the assignments in front of it last as long as the command does.
-/

namespace Conformance

namespace Shell

open Act

open Builtin (report)

/-! ## Programs that cannot be run -/

def refusal (extended : Bool) (name : Octets) (e : IoError) : Octets × Nat :=
  let missing := e = .os .noEntry || e = .os .notDirectory
  if !extended then
    if name.isEmpty then (": Permission denied".toList, 127)
    else if missing then (name ++ ": not found".toList, 127)
    else (name ++ ": ".toList ++ Utility.errorText e,
      if e = .os .nameTooLong || e = .os .linkLoop then 127 else 126)
  else if e = .os .noEntry then
    (name ++ (if name.contains '/' then ": No such file or directory" else
      ": command not found").toList, 127)
  else (name ++ ": ".toList ++ Utility.errorText e, 126)

/-- A directory cannot be run in the extended dialect's own words. -/
def failureOf (t : FileTree) (dir : Location) (extended : Bool) (name : Octets) (e : IoError) :
    IoError :=
  if extended && e = .os .accessDenied && t.isDirectory dir (Utility.pathOf name) then
    .os .isDirectory
  else e

/-- The first line of a file holds characters that no text does. -/
def isBinary (data : Bytes) : Bool :=
  ((data.take 256).takeWhile (· != 10)).any fun b =>
    (b < 0x20 && !(9 ≤ b && b ≤ 0x0e) && b != 0x1b) || b == 0x7f

/-- The program for a command.  A shell reads files of text that name no interpreter. -/
def imageFor (t : FileTree) (dir : Location) (search : Octets) (known? : Option Octets)
    (extended : Bool) (args : List Octets) : Except IoError (String × List Octets) :=
  if extended then Launch.imageOrScript t dir search known? "bash" args
  else match Launch.image t dir search known? args with
    | .error (.os e) =>
        if e != .notExecutable then .error (.os e)
        else
          let place? := known?.orElse fun _ => Launch.find? t dir search (args.headD [])
          match place?.map fun path => t.read dir (Utility.pathOf path) with
          | some (.ok data) =>
              if isBinary data then .error (.os e)
              else Launch.imageOrScript t dir search known? "sh" args
          | _ => .error (.os e)
    | image => image

/-! ## Programs -/

/-- The shell has nothing to do behind the command that runs, so that this can take its place. -/
def isLast (i : Interpreter) : Bool :=
  i.tasks.isEmpty && i.traps.all fun (_, action) => action.isEmpty

def unassign (p : Prepared) : Act Unit := Builtin.undo (.unassign p.assigned)

/-- What is known about where programs are counts for a command, which is not looked for in
directories of its own. -/
def mayRemember (standard : Bool) (p : Prepared) : Bool :=
  !standard && p.assigned.all fun (x, _) => x != "PATH".toList

def exportedFunctions (i : Interpreter) : List (Octets × Octets) :=
  let place (f : Octets × Routine) : Nat := Value.hash f.1 % 512
  let exported := i.functions.filter fun (_, r) => r.exported
  (exported.mergeSort fun a b => place a ≤ place b).map fun (x, r) =>
    ("BASH_FUNC_".toList ++ x ++ "%%".toList, Layout.exportedFunction r.origin.written)

def startProgram (inPlace standard : Bool) (mark : Octets) (p : Prepared) (args : List Octets)
    (zeroth : Option Octets) : Act Unit := do
  let here ← process
  let v ← vars
  let marked := p.assigned.foldl (fun v (x, _) => v.markExported x) v
  let search := if standard then Launch.standardSearch
    else (marked.value? "PATH".toList).getD (if v.isExtended then [] else Launch.standardSearch)
  let tree := (← machine).tree
  let command := args.headD []
  let known? ← if mayRemember standard p then Builtin.hashed? command else pure none
  unassign p
  let image := match v.isExtended, known? with
    | true, _ => imageFor tree here.directory search (known?.map Hashed.path) true args
    | false, some h => imageFor tree here.directory (Launch.searchFrom search command h.path) none
        false args
    | false, none => imageFor tree here.directory search none false args
  let i ← shell
  -- What the shell counts of those around it goes back if the shell is no longer there.
  let isGone := inPlace && v.isExtended && (if mark.isEmpty then i.yields else v.copies = 0)
  let marked := match isGone, (marked.value? "SHLVL".toList).bind Utility.readNat? with
    | true, some (n + 1) => marked.set "SHLVL".toList (Octets.ofNat n)
    | _, _ => marked
  let own := marked.environment (p.assigned.map Prod.fst)
  match Launch.withRoom args own image with
  | .ok (name, argv) => do
      let environment := if v.isExtended then
          own.filter (·.1 != ['_']) ++ exportedFunctions i ++
            (((known?.map Hashed.path).orElse fun _ =>
              Launch.find? tree here.directory search command).map fun path => (['_'], path)).toList
        else own
      let argv := match zeroth with
        | some s => s :: argv.drop 1
        | none => argv
      if inPlace then become name argv environment
      else do
        if mayRemember standard p then Builtin.remember command true
        let id ← fork ⟨[], here.channels, false, false, false⟩
        inside id (become name argv environment)
        push (.await [id] (some id) false)
  | .error e => do
      let e := failureOf tree here.directory v.isExtended command e
      let shownName := ((known?.filter fun _ => v.isExtended).map Hashed.path).getD command
      let (message, n) := refusal v.isExtended shownName e
      report (mark ++ message)
      if inPlace then exitShell n
      else do
        setStatus n
        settle

/-! ## Functions -/

/-- How deep functions call one another before the shell gives up. -/
def callLimit (extended : Bool) : Nat := if extended then 5000 else 1000

def callFunction (name : Octets) (args : List Octets) (routine : Routine) : Act Unit := do
  let i ← shell
  let extended := i.vars.isExtended
  if i.callers.length ≥ callLimit extended then
    if extended then do
      inside i.vars.ownId (finish (.signal ⟨11⟩))
    else Builtin.interrupt "Maximum function recursion depth (1000) reached".toList true
  else do
    push (.returnTo i.vars.args i.search)
    modifyShell fun i =>
      let vars := { i.vars with args }
      ({ i with
        vars
        search := if extended then i.search
          else ⟨1, none, (vars.value? "OPTIND".toList).getD []⟩ } : Interpreter).withCallers
        (⟨name, vars.line, routine.file⟩ :: i.callers)
    push (.run routine.body)

/-! ## Commands by name -/

def assignFor (p : Prepared) : Act Unit := do
  if !p.assigned.isEmpty then do
    push (.unassign p.assigned)
    modifyVariables fun v => p.assigned.foldl (fun v (x, _) => v.markExported x) v

/-- What the options of the command that runs commands ask for: to say what names stand for, at
length or not, and to look in the standard places. -/
structure Lookup where
  long : Option Bool
  standard : Bool

def readLookup (l : Lookup) : List Octets → Except Char (Lookup × List Octets)
  | [] => .ok (l, [])
  | ['-', '-'] :: rest => .ok (l, rest)
  | ('-' :: c :: letters) :: rest =>
      match (c :: letters).find? fun d => d != 'p' && d != 'v' && d != 'V' with
      | some d => .error d
      | none =>
          let said := ((c :: letters).filter (· != 'p')).getLast?.map fun d => d == 'V'
          readLookup ⟨said.orElse fun _ => l.long, l.standard || (c :: letters).contains 'p'⟩ rest
  | args => .ok (l, args)

def execute (p : Prepared) (c : Call) : Act Unit := do
  let extended ← isExtended
  let replace (zeroth : Option Octets) (args : List Octets) : Act Unit := do
    if args.isEmpty then do
      setStatus 0
    else startProgram true false "exec: ".toList p args zeroth
  if !extended then
    replace none (if c.args.head? = some "--".toList then c.args.drop 1 else c.args)
  else match c.args with
  | ['-', 'a'] :: zeroth :: args => replace (some zeroth) args
  | ['-', '-'] :: args => replace none args
  | ['-', 'c'] :: args | ['-', 'l'] :: args => replace none args
  | ('-' :: d :: _) :: _ => do
      complain ("exec: -".toList ++ [d] ++ ": invalid option".toList)
      write 2 ("exec: usage: exec [-cl] [-a name] [command [argument ...]] " ++
        "[redirection ...]\n").toList
      setStatus 2
  | args => replace none args

def isStandardSpecial (i : Interpreter) (name : Octets) : Bool :=
  i.vars.isSet "posix" && (name = "source".toList || (Builtin.isSpecial name &&
    name != "local".toList))

def misuseCounts (name : Octets) : Bool :=
  ["set", "export", "readonly", "unset", "trap", "shift", "break", "continue", "times"].any
    (·.toList = name)

structure Manner where
  functionsToo : Bool
  standard : Bool
  isInner : Bool

def call (manner : Manner) (p : Prepared) : Nat → List Octets → Act Unit
  | _, [] => do
      unassign p
      setStatus 0
  | 0, _ => return
  | fuel + 1, name :: args => do
    let i ← shell
    let extended := i.vars.isExtended
    let special := !extended && !manner.isInner && Builtin.isSpecial name
    let standardSpecial := isStandardSpecial i name && !manner.isInner
    let c : Call := { name, args, arrays := p.arrays, isSpecial := special }
    match (if manner.functionsToo then i.functions.lookup name else none) with
    | some routine => do
        assignFor p
        callFunction name args routine
    | none =>
      if !i.knows name then
        startProgram (isLast i) manner.standard [] p (name :: args) none
      else if name = "exec".toList then execute p c
      else if name = "command".toList then
        match readLookup ⟨none, false⟩ args with
        | .error d => do
            assignFor p
            if extended then do
              complain ("command: -".toList ++ [d] ++ ": invalid option".toList)
              write 2 "command: usage: command [-pVv] command [arg ...]\n".toList
              setStatus 2
            else Builtin.failWith c ("Illegal option -".toList ++ [d]) 2
        | .ok (⟨some long, _⟩, names) => do
            assignFor p
            Builtin.lookUp long names
        | .ok (⟨none, standard⟩, args) => call ⟨false, standard, true⟩ p fuel args
      else if extended && name = "builtin".toList then
        match (if args.head? = some "--".toList then args.drop 1 else args) with
        | [] => do
            unassign p
            setStatus 0
        | first :: rest =>
            if i.knows first then call ⟨false, false, true⟩ p fuel (first :: rest)
            else do
              unassign p
              Builtin.failWith c (first ++ ": not a shell builtin".toList) 1
      else match Builtin.find? extended name with
        | some builtin => do
            -- By the standard the assignments in front of a special builtin last.
            if !special && !standardSpecial then assignFor p
            else modifyVariables fun v => p.assigned.foldl (fun v (x, _) => v.markExported x) v
            builtin c
            -- Used wrongly it ends the shell.
            if standardSpecial && misuseCounts name && (← status) == 2 then exitShell 2
        | none =>
            startProgram (isLast i) manner.standard [] p (name :: args) none

def callPrepared (functionsToo : Bool) (p : Prepared) : Act Unit := do
  if p.redirections.isEmpty then
    call ⟨functionsToo, false, false⟩ p (p.args.length + 1) p.args
  else if ← redirect p.redirections then push (.execute functionsToo { p with redirections := [] })
  else exitShell 1

def isProgram (i : Interpreter) (name : Octets) : Bool :=
  (i.functions.lookup name).isNone && !i.knows name

def traceText (v : Variables) (p : Prepared) : Octets :=
  let mark := (v.value? "PS4".toList).getD []
  if v.isExtended then
    (p.shown.map fun (x, s) => mark ++ x ++ '=' :: (if s.isEmpty then [] else shown s) ++
      ['\n']).flatten ++
    (if p.args.isEmpty then []
      else mark ++ Utility.joinWith [' '] (p.args.map shown) ++ ['\n'])
  else mark ++ Utility.joinWith [' '] (p.shown.map (fun (x, s) => x ++ '=' :: s) ++ p.args) ++ ['\n']

def runPrepared (p : Prepared) : Act Unit := do
  let i ← shell
  let extended := i.vars.isExtended
  if i.vars.has 'x' then write 2 (traceText i.vars p)
  match p.args with
  | [] => do
      -- Without a command the assignments last, and the redirections do not.
      let saved := (← process).channels
      if p.assigned.any (·.1 = "PATH".toList) then modifyShell fun i => { i with hashed := [] }
      if ← redirect p.redirections then do
        modifyProcess fun p => { p with channels := saved }
        setStatus ((← shell).outputStatus.getD 0)
      else do
        setStatus (if extended then 1 else 2)
      settle
  | name :: _ => do
      if extended then
        modifyVariables fun v => (v.remove "PIPESTATUS".toList).set ['_'] (p.args.getLastD [])
      let bare := { p with redirections := [] }
      let isOutside := isProgram i name
      let inPlace := isLast i
      if extended && isOutside && !inPlace then do
        -- The redirections are made by the process that becomes the program.
        let id ← fork ⟨[.execute false p], (← channels), false, false, false⟩
        if mayRemember false p then Builtin.remember name true
        unassign p
        push (.await [id] (some id) false)
      else do
        if !isOutside && watchesFailure i then push .settle
        let lasts := name = "exec".toList || (inPlace && isOutside)
        let redirected ← if lasts then redirect p.redirections else redirectFor p.redirections
        if redirected then
          if ← isWaiting then push (.execute true bare)
          else callPrepared true bare
        else do
          unassign p
          if extended then if isStandardSpecial i name then exitShell 1 else setStatus 1
          else if Builtin.isSpecial name then exitShell 2
          else setStatus 2
          if isOutside then settle

end Shell

end Conformance
