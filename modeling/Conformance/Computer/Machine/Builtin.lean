import Conformance.Computer.Machine.Builtin.Allowances
import Conformance.Computer.Machine.Builtin.DirectoryStack
import Conformance.Computer.Machine.Builtin.Lines
import Conformance.Computer.Machine.Builtin.Names
import Conformance.Computer.Machine.Builtin.Processes

/-!
# The table of builtins

The builtins of both dialects by name.
-/

namespace Conformance

namespace Shell

namespace Builtin

open Act

def statusCommand (n : Nat) (_ : Call) : Act Unit := setStatus n

def echoCommand (c : Call) : Act Unit := do
  let v ← vars
  printWith c (if v.isExtended then
      Utility.Format.echo .extendedShell v.isWide (v.isSet "xpg_echo") c.args
    else Utility.Format.echo .plainShell v.isWide false c.args) 0

/-- The test command under one of its two names. -/
def testCommand (name : String) (c : Call) : Act Unit := do
  let (n, complaint?) := Utility.Test.run (← subject) name c.args
  match complaint? with
  | some message => complain message
  | none => pure ()
  setStatus n

/-- Puts out what comes out of `printf`.  In the extended dialect whole lines go out before
something is told, and in the other one everything that is told goes first. -/
def printSaid (c : Call) (said : List Utility.Format.Said) (n : Nat) : Act Unit := do
  let extended ← isExtended
  let mut pending : Octets := []
  for piece in said do
    match piece with
    | .printed s => pending := pending ++ s
    | .told message => do
        if extended then
          let open' := (pending.reverse.takeWhile (· != '\n')).reverse
          let lines := pending.take (pending.length - open'.length)
          if !lines.isEmpty then let _ ← tryWrite 1 lines
          pending := open'
        complain ("printf: ".toList ++ message)
  printWith c pending n

def printfCommand (c : Call) : Act Unit := do
  let v ← vars
  let m ← machine
  let extended := v.isExtended
  let manner : Utility.Format.Manner :=
    { voice := if extended then .extendedShell else .plainShell
      wide := v.isWide
      shown := id
      now := m.now / 1000000 }
  let usage : Act Unit := do
    if extended then do
      note c "usage: printf [-v var] format [arguments]".toList
      setStatus 2
    else failWith c "usage: printf format [arg ...]".toList 2
  let format (target : Option Octets) (args : List Octets) : Act Unit := do
    if args.isEmpty || args = ["--".toList] then usage
    else do
      let (said, n) := Utility.Format.printf manner args
      match target with
      | none => printSaid c said n
      | some x => do
          let text := Utility.Format.printedText said
          for piece in said do
            if let .told message := piece then complain ("printf: ".toList ++ message)
          let (name, index) := nameAndIndex x
          if !isName name then
            failWith c (quotedInMessage x ++ ": not a valid identifier".toList) 2
          else do
            let fine ← match index with
              | .at [.text key _] => attempt (Expand.assignItem name key false text)
              | _ => assign name text
            if fine then setStatus n
  match c.args with
  | ['-', '-'] :: args => format none ("--".toList :: args)
  | ['-', 'v'] :: rest =>
      if extended then
        match rest with
        | x :: args => format (some x) args
        | [] => do
            complain "printf: -v: option requires an argument".toList
            usage
      else failWith c "Illegal option -v".toList 2
  | ('-' :: d :: letters) :: args =>
      if extended then
        if d == 'v' then format (some letters) args
        else do
          complain ("printf: -".toList ++ [d] ++ ": invalid option".toList)
          usage
      else failWith c ("Illegal option -".toList ++ [d]) 2
  | args => format none args

/-- Jobs are not moved between foreground and background. -/
def jobControl (c : Call) : Act Unit := do
  if ← isExtended then failWith c "no job control".toList 1
  else match c.args with
  | [] => failWith c "No current job".toList 2
  | a :: _ => failWith c ("No such job: ".toList ++ a) 2

def refusing (message : String) (c : Call) : Act Unit := failWith c message.toList 1

/-- Tells from where the innermost function was called, or one further out. -/
def callerCommand (c : Call) : Act Unit := do
  let i ← shell
  -- The script itself was called from nowhere.
  let frames := i.callers ++ [⟨"main".toList, 0, i.vars.name⟩]
  let place (n : Nat) : Option (Nat × Octets × Octets) := do
    let called ← i.callers[n]?
    let caller ← frames[n + 1]?
    return (called.line, caller.name, caller.file)
  match c.args with
  | [] =>
      match place 0 with
      | some (line, _, file) => printWith c (Octets.ofNat line ++ ' ' :: file ++ ['\n']) 0
      | none => if i.vars.has 'c' then setStatus 1 else printWith c "0 NULL\n".toList 0
  | n :: _ =>
      match (Utility.readNat? n).map place with
      | some (some (line, name, file)) =>
          printWith c (Octets.ofNat line ++ ' ' :: name ++ ' ' :: file ++ ['\n']) 0
      | some none => setStatus 1
      | none => do
          failWith c (n ++ ": invalid number".toList) 2
          write 2 "caller: usage: caller [expr]\n".toList

def enableCommand (c : Call) : Act Unit :=
  withLetters c "" "anps" "enable [-a] [-dnps] [-f filename] [name ...]" fun letters names => do
    let has (d : Char) : Bool := letters.contains d
    setStatus 0
    if names.isEmpty || has 'p' then
      let all := sorted ((if has 's' then specialNames.filter (· != "local") ++ ["source"]
        else specialNames ++ commonNames ++ extendedNames).map String.toList)
      let off := (← shell).disabled
      let shown := all.filter fun x => has 'a' || has 'n' == off.contains x
      print (Octets.unlines (shown.map fun x =>
        (if off.contains x then "enable -n " else "enable ").toList ++ x))
    else for x in names do
      if !isKnown true x then failWith c (x ++ ": not a shell builtin".toList) 1
      else modifyShell fun i =>
        let others := i.disabled.filter (· != x)
        { i with disabled := if has 'n' then x :: others else others }

def common : List (String × (Call → Act Unit)) :=
  [(":", statusCommand 0), ("true", statusCommand 0), ("false", statusCommand 1),
    (".", sourceCommand), ("[", testCommand "["), ("alias", aliasCommand), ("bg", jobControl),
    ("break", loopCommand false), ("cd", cdCommand), ("continue", loopCommand true),
    ("echo", echoCommand), ("eval", evalCommand), ("exit", exitCommand),
    ("export", exportCommand), ("fg", jobControl), ("getopts", getoptsCommand),
    ("hash", hashCommand), ("jobs", jobsCommand), ("kill", killCommand),
    ("printf", printfCommand), ("pwd", pwdCommand), ("read", readCommand),
    ("readonly", readonlyCommand), ("return", returnCommand), ("set", setCommand),
    ("shift", shiftCommand), ("test", testCommand "test"), ("times", timesCommand),
    ("trap", trapCommand), ("type", typeCommand), ("ulimit", ulimitCommand),
    ("umask", umaskCommand), ("unalias", unaliasCommand), ("unset", unsetCommand),
    ("wait", waitCommand)]

def extended : List (String × (Call → Act Unit)) :=
  [("bind", statusCommand 0), ("caller", callerCommand), ("compgen", statusCommand 1),
    ("complete", statusCommand 0),
    ("compopt", refusing "not currently executing completion function"),
    ("declare", declareCommand), ("dirs", dirsCommand), ("disown", disownCommand),
    ("enable", enableCommand), ("fc", statusCommand 0), ("help", statusCommand 0),
    ("history", statusCommand 0), ("let", letCommand), ("local", declareCommand),
    ("logout", refusing "not login shell: use `exit'"), ("mapfile", mapfileCommand),
    ("popd", popdCommand), ("pushd", pushdCommand), ("readarray", mapfileCommand),
    ("shopt", shoptCommand), ("source", sourceCommand),
    ("suspend", refusing "cannot suspend: no job control"), ("typeset", declareCommand)]

def plain : List (String × (Call → Act Unit)) := [("chdir", cdCommand), ("local", localCommand)]

def find? (isExtended : Bool) (name : Octets) : Option (Call → Act Unit) :=
  ((common ++ if isExtended then extended else plain).find? fun (n, _) => n.toList = name).map
    Prod.snd

end Builtin

end Shell

end Conformance
