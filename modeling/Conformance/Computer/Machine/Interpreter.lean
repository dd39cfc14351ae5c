import Conformance.Computer.Machine.Calling

/-!
# Shells at work

A shell takes the first of its tasks and does one thing about it.  Expanding words may need the
output of a script; the shell then starts a copy of itself on the script and expands the words again
when its output is there.
-/

namespace Conformance

namespace Shell

open Act

open Builtin (report interrupt)

/-! ## Scripts inside words -/

def outputScript (extended : Bool) (script : Command) : Command :=
  match script with
  | .simple origin [] [] [.mk 0 .read target] =>
      if extended then .simple origin [] [[.text "cat".toList false]] [.mk 0 .read target] else script
  | script => script

def forkScript (script : Command) (own : Variables) (given : Channels) : Act Nat := do
  let before ← vars
  modifyVariables fun _ => own
  let id ← fork ⟨[.run script], given, true, true, true⟩
  modifyVariables fun _ => before
  return id

/-- Starts a script whose output words need.  The read end stays with the shell under a number that
no script uses. -/
def startOutput (script : Command) (own : Variables) (goal : Goal) (outputs : List Output)
    (passages : List Nat) : Act Unit := do
  let (pipe, m) := (← machine).newPipe
  setWorld m
  let script := outputScript (← isExtended) script
  let id ← forkScript script own ((← channels).put 1 (.pipeEnd pipe false true))
  setChannel pipe (.pipeEnd pipe true false)
  push (.collect id pipe [] goal outputs passages)

/-- Starts a script that a command reads from or writes to by the path of a pipe. -/
def startPassage (script : Command) (own : Variables) (scriptReads : Bool) (goal : Goal)
    (outputs : List Output) (passages : List Nat) : Act Unit := do
  let (pipe, m) := (← machine).newPipe
  setWorld m
  let present ← channels
  let number := (((List.range 54).map (63 - ·)).find? fun n => (present.get? n).isNone).getD 64
  let side : Channel := .pipeEnd pipe scriptReads (!scriptReads)
  let _ ← forkScript script own (present.put (if scriptReads then 0 else 1) side)
  setChannel number (.pipeEnd pipe (!scriptReads) scriptReads)
  push (.expand goal (outputs ++ [⟨"/dev/fd/".toList ++ Octets.ofNat number, none⟩]) (number :: passages))

/-- Takes what a script has printed, once all of it has come. -/
def collect (id pipe : Nat) (taken : List Octets) (goal : Goal) (outputs : List Output)
    (passages : List Nat) : Act Unit := do
  let m ← machine
  let (got, after) := m.read (.pipeEnd pipe true false)
  match got with
  | .data s => do
      setWorld after
      push (.collect id pipe (s :: taken) goal outputs passages)
  | _ =>
      if m.hasWriter pipe || m.isAlive id then push (.collect id pipe taken goal outputs passages)
      else do
        modifyProcess fun p => { p with channels := p.channels.close pipe }
        let status := (m.ended.lookup id).map ExitStatus.toNat
        modifyShell fun i => { i with outputStatus := status }
        let text := taken.reverse.flatten.filter (· != '\x00')
        push (.expand goal (outputs ++ [⟨text, status⟩]) passages)

/-! ## Goals -/

def attempt {α : Type} (goal : Goal) (outputs : List Output) (passages : List Nat) (e : Expand α)
    (k : α → Act Unit) : Act Unit := do
  match e.run ⟨← vars, outputs⟩ with
  | .ok (a, result) => do
      modifyVariables fun _ => result.vars
      if !passages.isEmpty then push (.close passages)
      k a
  | .error (.needs script .text own) => startOutput script own goal outputs passages
  | .error (.needs script (.pipe scriptReads) own) =>
      startPassage script own scriptReads goal outputs passages
  | .error (.failed message fatal) => do
      if !passages.isEmpty then push (.close passages)
      interrupt (Builtin.placeMark (← shell) ++ message) fatal

/-- A failure becomes part of the result, unless the shell ends of it. -/
def orMessage {α : Type} (e : Expand α) : Expand (Except Octets α) := fun s =>
  match e.run s with
  | .ok (a, s) => .ok (.ok a, s)
  | .error (.failed message false) => .ok (.error message, s)
  | .error interruption => .error interruption

def surroundings : Act Surroundings := do
  let v ← vars
  let rules : Pattern.Rules := ⟨v.isSet "extglob", .of (v.isSet "nocaseglob") v.isWide⟩
  let ignored := if !v.isExtended then [] else
    ((Utility.splitAt ':' ((v.value? "GLOBIGNORE".toList).getD [])).filter fun s => !s.isEmpty).map
      fun s => Pattern.parse rules ((v.characters s).map fun c => (c, false))
  return {
    tree := (← machine).tree
    directory := (← process).directory
    hidden := v.isSet "dotglob" || !ignored.isEmpty
    ignored
    vanishes := v.isSet "nullglob"
    fails := v.isSet "failglob"
    dots := !v.isExtended
    deep := v.isSet "globstar"
    rules
    wide := v.isWide }

def reckon (expression : Word) : Expand (Option Int) := do
  let s := Atom.text (← expandRaw expression)
  if s.all Utility.isSpace then return none else return some (← Expand.arithmetic s)

def failHere (mark : String) (message : Octets) (n : Nat) : Act Unit := do
  if !message.isEmpty then complain (mark.toList ++ message)
  setStatus n
  settle

def runArm (text : Octets) : List Arm → Act Unit
  | [] => setStatus 0
  | (_, body, behind) :: rest => do
      match behind with
      | .leaves => pure ()
      | .runsNext => push (.nextArm text rest false)
      | .testsNext => push (.nextArm text rest true)
      push (.run body)

def beginEach (name : Octets) (values : List Octets) (body : Command) : Act Unit := do
  if values.isEmpty then setStatus 0 else push (.next name values body)

def beginMenu (name : Octets) (values : List Octets) (body : Command) : Act Unit := do
  if values.isEmpty then setStatus 0 else push (.offer name values body true)

/-- Redirections of the plain dialect are made before the assignments are expanded. -/
def redirectFirst (origin : Origin) (assignments : List Assignment) (p : Prepared) : Act Unit := do
  let isExec := p.args.head? = some "exec".toList
  let redirected ← if isExec then redirect p.redirections else redirectFor p.redirections
  if redirected then
    push (.expand (.simple origin assignments (p.args.map fun a => [.text a true]) []) [] [])
  else if p.args.head?.any Builtin.isSpecial then exitShell 2
  else do
    setStatus 2
    settle

def expandGoal (goal : Goal) (outputs : List Output) (passages : List Nat) : Act Unit := do
  let s ← surroundings
  let v ← vars
  match goal with
  | .simple origin assignments words redirections =>
      let isLocked (a : Assignment) : Bool := match a with
        | .mk x .. => v.isReadOnly x
      if v.isExtended && !words.isEmpty && assignments.any isLocked then do
        -- The command runs without the assignments that fail.
        for a in assignments.filter isLocked do
          match a with
          | .mk x .. => complain (x ++ ": readonly variable".toList)
        let rest := assignments.filter fun a => !isLocked a
        push (.expand (.simple origin rest words redirections) outputs passages)
      else if !v.isExtended && !assignments.isEmpty && !redirections.isEmpty then
        attempt goal outputs passages (prepare s origin [] words redirections)
          (redirectFirst origin assignments)
      else
        attempt goal outputs passages (prepare s origin assignments words redirections)
          runPrepared
  | .redirect redirections body =>
      attempt goal outputs passages (redirections.mapM (expandTarget s)) fun targets => do
        -- What is set for the end of the shell is to find the descriptors as they are now.
        let i ← shell
        let inPlace := i.tasks.isEmpty && (v.isExtended || (i.traps.lookup .exit).isNone)
        let redirected ← if inPlace then redirect targets else redirectFor targets
        if redirected then do
          if !inPlace then push .rest
          push (.run body)
        else do
          setStatus (if v.isExtended then 1 else 2)
          settle
  | .each name words body =>
      attempt goal outputs passages (words.mapM (expandFields s)) fun values =>
        beginEach name values.flatten body
  | .menu name words body =>
      attempt goal outputs passages (words.mapM (expandFields s)) fun values =>
        beginMenu name values.flatten body
  | .choice word arms =>
      attempt goal outputs passages (do
        let text ← expandText word
        return (text, ← chooseArm text arms)) fun (text, arms) => runArm text arms
  | .evaluation expression =>
      attempt goal outputs passages (orMessage (reckon expression)) fun result => do
        match result with
        | .ok n => do
            setStatus (if n.getD 0 = 0 then 1 else 0)
            settle
        | .error message => failHere "((: " message 1
  | .examination condition => do
      let subject ← Builtin.subject
      attempt goal outputs passages (orMessage (examine subject condition)) fun result => do
        match result with
        | .ok outcome => do
            setStatus (if outcome then 0 else 1)
            settle
        | .error message => failHere "[[: " message (if message.isEmpty then 2 else 1)
  | .counting now test step body last =>
      attempt goal outputs passages (orMessage (reckon now)) fun result => do
        match result with
        | .ok _ => push (.expand (.countingTest test step body last) [] [])
        | .error message => failHere "((: " message 1
  | .countingTest test step body last =>
      attempt goal outputs passages (orMessage (reckon test)) fun result => do
        match result with
        | .ok n =>
            if n.getD 1 = 0 then setStatus last
            else do
              push (.countingAgain test step body)
              push (.run body)
        | .error message => failHere "((: " message 1

/-! ## Processes -/

def emptyInput : Act (Option Channel) := do
  let m ← machine
  match m.openPath (← process).directory 0 ⟨"/dev/null"⟩ .read with
  | .ok opened => do
      setWorld opened.machine
      return some opened.channel
  | .error _ => return none

/-- A copy of the shell for the command counts as a shell inside of another; one in parentheses will
count later. -/
def countsAsShell : Command → Bool
  | .simple .. | .subshell _ | .redirected (.subshell _) _ => false
  | _ => true

/-- Starts commands, each with the output of the one before as its input, and gives their numbers and
the output of the last one. -/
def startStages (input : Option Channel) : List Command → Act (List Nat × Option Channel)
  | [] => return ([], input)
  | c :: rest => do
      let own ← channels
      let own := match input with
        | some channel => own.put 0 channel
        | none => own
      let (pipe, m) := (← machine).newPipe
      setWorld m
      let id ← fork ⟨[.run c], own.put 1 (.pipeEnd pipe false true), false, countsAsShell c, false⟩
      let (ids, output) ← startStages (some (.pipeEnd pipe true false)) rest
      return (id :: ids, output)

/-- Starts the commands of a pipeline, the first of them with an input of its own if one is given, and
gives their numbers. -/
def startPipeline (input : Option Channel) (commands : List Command) : Act (List Nat) := do
  match commands.getLast? with
  | none => return []
  | some last => do
      let (ids, input) ← startStages input commands.dropLast
      let own ← channels
      let own := match input with
        | some channel => own.put 0 channel
        | none => own
      return ids ++ [← fork ⟨[.run last], own, false, countsAsShell last, false⟩]

def runLastHere (commands : List Command) : Act Unit := do
  match commands.getLast? with
  | none => return
  | some last => do
      let (ids, input) ← startStages none commands.dropLast
      push (.join ids)
      match input with
      | some channel => do
          match (← channels).get? 0 with
          | some old => do
              let (hidden, m) := (← machine).freshId
              setWorld m
              setChannel hidden old
              push (.restore [(0, some hidden)])
          | none => push (.restore [(0, none)])
          setChannel 0 channel
      | none => pure ()
      push (.run last)

/-- Starts a command that the shell does not wait for.  It reads nothing and ignores what is typed
to interrupt. -/
def startBackground (c : Command) : Act Unit := do
  let input ← emptyInput
  let commands := match c with
    | .pipeline commands => commands
    | c => [c]
  let ids ← startPipeline input commands
  for id in ids do
    inside id do
      modifyProcess fun p => { p with ignored := ⟨2⟩ :: ⟨3⟩ :: p.ignored }
      modifyShell fun i => { i with
        sheltered := false
        yields := i.vars.isExtended && ids.length = 1
        steadfast := if i.vars.isExtended then i.steadfast else ⟨2⟩ :: ⟨3⟩ :: i.steadfast }
  let last := ids.getLastD 0
  let job : BackgroundJob := ⟨ids, last, false, false, []⟩
  modifyShell fun i => { i with
    jobs := i.jobs ++ [job]
    vars := { i.vars with lastBackground := some last, status := 0 } }

def startCoprocess (name : Octets) (c : Command) : Act Unit := do
  let (toCommand, m) := (← machine).newPipe
  let (fromCommand, m) := m.newPipe
  setWorld m
  let own ← channels
  let id ← fork ⟨[.run c], (own.put 0 (.pipeEnd toCommand true false)).put 1
    (.pipeEnd fromCommand false true), false, countsAsShell c, false⟩
  let free (most : Nat) (taken : List Nat) : Nat :=
    (((List.range (most - 9)).map (most - ·)).find? fun n =>
      (own.get? n).isNone && !taken.contains n).getD 10
  let source := free 63 []
  let target := free 60 [source]
  setChannel source (.pipeEnd fromCommand true false)
  setChannel target (.pipeEnd toCommand false true)
  modifyShell fun i => { i with
    coprocess := some ⟨name, id, source, target⟩
    jobs := i.jobs ++ [⟨[id], id, false, false, []⟩]
    vars := { (i.vars.setValue name (.ofList [Octets.ofNat source, Octets.ofNat target])).set
        (name ++ "_PID".toList) (Octets.ofNat id) with
      lastBackground := some id
      status := 0 } }

/-- Runs a command in a copy of the shell, or in the shell itself if it has nothing else to do. -/
def runApart (task : Task) : Act Unit := do
  let i ← shell
  if isLast i then do
    modifyVariables fun v => { v with copies := v.copies + 1 }
    modifyShell fun i => { i with yields := i.vars.isExtended }
    push task
  else do
    let id ← fork ⟨[task], (← channels), false, true, true⟩
    push (.await [id] (some id) false)

/-! ## Commands -/

def beforeCommand : Act Unit := do
  let i ← shell
  let isTrapped := i.tasks.any fun t => match t with
    | .afterTrap .. => true
    | _ => false
  if !isTrapped && (!i.isInFunction || i.vars.has 'T') then
    match i.traps.lookup .command with
    | some action => do
        push (.afterTrap (← status) .command)
        push (.script (scanOf i action i.vars.line))
    | none => return

def runCommand (c : Command) : Act Unit := do
  -- A shell may be asked to do no more than read.
  if (← vars).has 'n' then return
  match c with
  | .nothing => setStatus 0
  | .simple origin assignments words redirections => do
      let now := (← machine).now
      let inTrap := (← shell).tasks.any fun t => match t with
        | .afterTrap .. => true
        | _ => false
      modifyShell fun i => { i with
        outputStatus := none
        vars := { i.vars with
          line := origin.line
          command := if inTrap then i.vars.command else origin
          clock := now } }
      push (.expand (.simple origin assignments words redirections) [] [])
      beforeCommand
  | .pipeline commands => do
      if (← vars).isSet "lastpipe" && !(← vars).has 'm' then runLastHere commands
      else do
        let ids ← startPipeline none commands
        push (.await ids ids.getLast? false)
  | .negation c => do
      push .negate
      push (.run c)
  | .both first second => do
      push (.both second)
      push (.run first)
  | .either first second => do
      push (.either second)
      push (.run first)
  | .sequence first second => do
      push (.run second)
      push (.run first)
  | .background _ c => startBackground c
  | .coprocess name c => startCoprocess name c
  | .subshell c => runApart (.run c)
  | .redirected (.subshell c) redirections => runApart (.expand (.redirect redirections c) [] [])
  | .redirected c redirections => push (.expand (.redirect redirections c) [] [])
  | .conditional condition yes no => do
      push (.branch yes no)
      push (.run condition)
  | .loop outcome condition body => do
      push (.loopTest outcome condition body 0)
      push (.run condition)
  | .each name words body =>
      match words with
      | some words => push (.expand (.each name words body) [] [])
      | none => do beginEach name (← vars).args body
  | .menu name words body =>
      match words with
      | some words => push (.expand (.menu name words body) [] [])
      | none => do beginMenu name (← vars).args body
  | .counting start test step body => push (.expand (.counting start test step body 0) [] [])
  | .choice word arms => push (.expand (.choice word arms) [] [])
  | .definition origin name body => do
      let i ← shell
      let old? := i.functions.lookup name
      if old?.any Routine.readOnly then do
        complain (name ++ ": readonly function".toList)
        setStatus 1
      else do
        let isExported := i.vars.has 'a' || old?.any Routine.exported
        let routine : Routine := ⟨body, origin, i.file, isExported, false⟩
        modifyShell fun i =>
          { i with functions := (name, routine) :: i.functions.filter (·.1 != name) }
        setStatus 0
  | .evaluation expression => push (.expand (.evaluation expression) [] [])
  | .examination condition => push (.expand (.examination condition) [] [])
  | .timed portable c => do
      push (.timed portable (← machine).clock)
      push (.run c)

def runNext (name : Octets) (values : List Octets) (body : Command) : Act Unit := do
  match values with
  | [] => return
  | value :: rest => do
      let v ← vars
      if v.isExtended && v.isReadOnly name then failHere "" (name ++ ": readonly variable".toList) 1
      else if ← Builtin.assign name value then do
        push (.next name rest body)
        push (.run body)

def offerWidth (indexWidth : Nat) (value : Octets) : Nat := indexWidth + 2 + value.length

def gapTo (fuel : Nat) (column target : Nat) : Octets :=
  match fuel with
  | 0 => []
  | fuel + 1 =>
      if target ≤ column then []
      else if target / 8 > column / 8 then '\t' :: gapTo fuel (column + (8 - column % 8)) target
      else ' ' :: gapTo fuel (column + 1) target

def menuText (v : Variables) (values : List Octets) : Octets :=
  let count := values.length
  let indexWidth := (Octets.ofNat count).length
  let widest := ((values.map List.length).max?.getD 0) + indexWidth + 4
  let room := (((v.value? "COLUMNS".toList).bind Utility.readNat?).filter (· > 0)).getD 80
  let columns := max 1 (room / widest)
  let rows := (count + columns - 1) / columns
  let columns := (count + rows - 1) / max rows 1
  let rows := if rows = 1 then columns else rows
  let firstWidth := (Octets.ofNat rows).length
  let row (n : Nat) : Octets :=
    let places := (List.range columns).map fun k => (k, n + k * rows)
    let shown := places.filter fun (_, place) => place < count
    (shown.flatMap fun (k, place) =>
      let width := if k = 0 then firstWidth else indexWidth
      let number := Octets.ofNat (place + 1)
      let value := values.getD place []
      let start := k * widest
      List.replicate (width - number.length) ' ' ++ number ++ ") ".toList ++ value ++
        (if place + rows < count then
          gapTo widest (start + offerWidth width value) (start + widest) else [])) ++ ['\n']
  (List.range rows).flatMap row

def offer (name : Octets) (values : List Octets) (body : Command) (shows : Bool) : Act Unit := do
  let v ← vars
  if shows then write 2 (menuText v values)
  write 2 ((v.value? "PS3".toList).getD "#? ".toList)
  push (.pick name values body)
  push (.readLine ⟨false, [], none, '\n', 0, none, false, none⟩ [])

def pick (name : Octets) (values : List Octets) (body : Command) : Act Unit := do
  if (← status) != 0 then do
    print ['\n']
    setStatus 1
  else
    let reply := ((← vars).value? "REPLY".toList).getD []
    if reply.isEmpty then push (.offer name values body true)
    else
      let chosen := match signedNumber? ((reply.dropWhile Utility.isSpace).reverse.dropWhile
          Utility.isSpace).reverse with
        | some n => if n < 1 then [] else values.getD (n - 1).toNat []
        | none => []
      if ← Builtin.assign name chosen then do
        push (.offer name values body false)
        push (.run body)

def timeText (micros : Nat) : Octets :=
  let millis := micros / 1000
  let rest := Octets.ofNat (millis % 1000)
  Octets.ofNat (millis / 60000) ++ 'm' :: Octets.ofNat (millis / 1000 % 60) ++ '.' ::
    List.replicate (3 - rest.length) '0' ++ rest ++ ['s']

/-! ## Scripts -/

/-- The kind of a text that is no script of its own, and the name that messages call its script. -/
def originOf (i : Interpreter) : Octets × Octets :=
  let inner? := i.tasks.findSome? fun t => match t with
    | .endOfEval => some (i.vars.name, "eval: ".toList)
    | .endOfSource file _ => some (file, [])
    | .afterTrap .. => some (i.vars.name, "trap: ".toList)
    | _ => none
  inner?.getD (i.vars.name, if i.vars.has 'c' then "-c: ".toList else [])

def failToRead (scan : Scan) (e : Rejection) : Act Unit := do
  let i ← shell
  if !i.vars.isExtended then do
    let (message, line) := e.plainMessage
    modifyVariables fun v => { v with line }
    report message
    exitShell 2
  else do
    let (message, line, shows) := e.extendedMessage (scan.text.getLast? == some '\n')
    let (name, kind) := originOf i
    let start := name ++ ": ".toList ++ kind ++ "line ".toList ++ Octets.ofNat line ++ ": ".toList
    let lines := Text.splitWhen (· == '\n') scan.text
    write 2 (start ++ message ++ '\n' ::
      (if shows then start ++ '`' :: lines.getD (line - scan.line) [] ++ "'\n".toList else []))
    let isInner := i.tasks.any fun t => match t with
      | .endOfEval | .endOfSource .. | .afterTrap .. => true
      | _ => false
    if isInner then setStatus 2 else exitShell 2

def readOn (scan : Scan) : Act Unit := do
  let i ← shell
  let scan := { scan with
    aliases := aliasesInUse i
    alternatives := i.vars.isSet "extglob"
    wide := i.vars.isWide }
  match nextCommand scan with
  | .ok none => return
  | .ok (some (c, rest)) => do
      if i.vars.has 'v' then
        write 2 (scan.text.take (scan.text.length - rest.text.length))
      if !rest.text.isEmpty then push (.script rest)
      if !i.vars.has 'n' then push (.run c)
  | .error e => failToRead scan e

def holdsDocument : Octets → Bool
  | '<' :: '<' :: _ => true
  | _ :: rest => holdsDocument rest
  | [] => false

/-- Reads a script from standard input.  The plain dialect takes all there is; the extended one takes
a command at a time and leaves the rest to the commands. -/
def readInput (taken : List Octets) : Act Unit := do
  match (← channels).get? 0 with
  | none => return
  | some channel => do
      let i ← shell
      let (got, m) := (← machine).read channel
      let run (text : Octets) (isWhole : Bool) : Act Unit := do
        let scan := scanOf i text 1
        match nextCommand scan with
        | .ok (some (c, rest)) =>
            let used := text.take (text.length - rest.text.length)
            if isWhole || (used.getLast? == some '\n' && !rest.text.isEmpty) ||
                (used.getLast? == some '\n' && !holdsDocument used) then do
              modifyWorld fun m => m.unread channel rest.text
              push (.readScript [])
              push (.run c)
            else push (.readScript [text])
        | .ok none => if isWhole then return else push (.readScript [])
        | .error e =>
            if isWhole || !e.wantsMore then failToRead scan e
            else push (.readScript [text])
      match got with
      | .later => push (.readScript taken)
      | .data s => do
          setWorld m
          if i.vars.isExtended then run ((s :: taken).reverse.flatten) false
          else push (.readScript (s :: taken))
      | .ended | .refused _ =>
          let text := taken.reverse.flatten
          if i.vars.isExtended then run text true else push (.script (scanOf i text 1))

/-! ## Waiting -/

def signalReport (m : Machine) (id : Nat) : Octets :=
  match m.ended.lookup id with
  | some (.signal s) =>
      if s.number = 2 || s.number = 13 then [] else s.text.toList ++ ['\n']
  | _ => []

def takeStatus (processes : List Nat) (last : Option Nat) (asked : Bool) : Act Unit := do
  let m ← machine
  if processes.any m.isAlive then push (.await processes last asked)
  else do
    let extended ← isExtended
    let statusOf (id : Nat) : Nat := ((m.ended.lookup id).map ExitStatus.toNat).getD 0
    let statuses := processes.map statusOf
    if !extended then
      let watched := if asked then last.toList else processes
      write 2 (watched.flatMap (signalReport m))
    modifyShell fun i => { i with
      jobs := i.jobs.map fun j => if processes.contains j.last then { j with waited := true } else j }
    let v ← vars
    let own := (last.map statusOf).getD 0
    let joint := if asked || !v.isSet "pipefail" then own
      else (statuses.reverse.find? (· != 0)).getD 0
    if extended && !asked then
      modifyVariables fun v =>
        if processes.length > 1 then
          v.setValue "PIPESTATUS".toList (.ofList (statuses.map Octets.ofNat))
        else v.remove "PIPESTATUS".toList
    setStatus joint
    settle

/-- Takes the statuses of a pipeline whose last command the shell has run itself. -/
def takeJoined (processes : List Nat) : Act Unit := do
  let m ← machine
  let own ← status
  let statuses := processes.map (fun id => ((m.ended.lookup id).map ExitStatus.toNat).getD 0) ++ [own]
  modifyVariables fun v => v.setValue "PIPESTATUS".toList (.ofList (statuses.map Octets.ofNat))
  if (← vars).isSet "pipefail" then setStatus ((statuses.reverse.find? (· != 0)).getD 0)
  settle

def takeFirst (processes : List Nat) : Act Unit := do
  let m ← machine
  match processes.find? fun id => !m.isAlive id with
  | none => push (.awaitAny processes)
  | some id => do
      modifyShell fun i => { i with
        jobs := i.jobs.map fun j => if j.last = id then { j with waited := true } else j }
      setStatus (((m.ended.lookup id).map ExitStatus.toNat).getD 0)
      settle

/-! ## Tasks -/

def perform (task : Task) : Act Unit := do
  match task with
  | .script scan => readOn scan
  | .run c => runCommand c
  | .expand goal outputs passages => expandGoal goal outputs passages
  | .collect id pipe taken goal outputs passages => collect id pipe taken goal outputs passages
  | .execute functionsToo p => callPrepared functionsToo p
  | .both second => if (← status) = 0 then push (.run second)
  | .either second => if (← status) != 0 then push (.run second)
  | .negate => setStatus (if (← status) = 0 then 1 else 0)
  | .branch yes no => push (.run (if (← status) = 0 then yes else no))
  | .loopTest outcome condition body last =>
      if ((← status) = 0) = outcome then do
        push (.loopAgain outcome condition body)
        push (.run body)
      else setStatus last
  | .loopAgain outcome condition body => do
      push (.loopTest outcome condition body (← status))
      push (.run condition)
  | .countingAgain test step body =>
      push (.expand (.counting step test step body (← status)) [] [])
  | .next name values body => runNext name values body
  | .offer name values body first => do
      let reply? := (← vars).value? "REPLY".toList
      offer name values body (first || reply?.any List.isEmpty)
  | .pick name values body => pick name values body
  | .join processes => takeJoined processes
  | .nextArm text arms tests =>
      if tests then push (.expand (.choice [.text text true] arms) [] []) else runArm text arms
  | .restore _ | .unassign _ | .close _ | .endOfSource .. | .setOptions .. | .returnTo .. =>
      Builtin.undo task
  | .endOfEval => return
  | .await processes last asked => takeStatus processes last asked
  | .awaitAny processes => takeFirst processes
  | .readLine request taken => Builtin.readLine request taken
  | .readLines request taken => Builtin.readLines request taken
  | .readScript taken => readInput taken
  | .giveUp message n => do
      if !message.isEmpty then complain message
      exitShell n
  | .settle => settle
  | .rest => return
  | .afterTrap n _ => setStatus n
  | .timed portable start => do
      let micros := (← machine).clock - start
      if portable then
        let cents := Octets.ofNat (micros / 10000 % 100)
        write 2 ("real ".toList ++ Octets.ofNat (micros / 1000000) ++ '.' ::
          List.replicate (2 - cents.length) '0' ++ cents ++ "\nuser 0.00\nsys 0.00\n".toList)
      else
        write 2 ("\nreal\t".toList ++ timeText micros ++
          "\nuser\t0m0.000s\nsys\t0m0.000s\n".toList)
  | .exit => exitShell (← status)
  | .die s => finish (.signal s)

def isBusy (task : Task) : Bool :=
  match task with
  | .await _ _ asked => !asked
  | .collect .. | .join _ | .readLine .. | .readLines .. | .readScript _ => true
  -- A command that has begun is run first.
  | .expand .. | .execute .. => true
  -- What a command leaves behind is cleared away first.
  | .restore _ | .unassign _ | .close _ | .settle | .setOptions .. => true
  | _ => false

/-- A signal that has come breaks off a wait that the script has asked for.  The end of a child does
so in the plain dialect alone, and only if there is more to wait for. -/
def breaksWait (v : Variables) (m : Machine) (s : Signal) (processes : List Nat) : Bool :=
  s != .childEnded || (!v.isExtended && processes.any m.isAlive)

def beginTraps : Act Unit := do
  let p ← process
  let i ← shell
  let m ← machine
  let breaker (processes : List Nat) : Option Signal :=
    p.caught.find? fun s => breaksWait i.vars m s processes
  let broken? := match i.tasks with
    | .await processes _ true :: rest => (breaker processes).map fun s => (s, rest)
    | .awaitAny processes :: rest => (breaker processes).map fun s => (s, rest)
    | _ => none
  if let some (s, rest) := broken? then
    setTasks rest
    setStatus (128 + s.number)
  modifyProcess fun p => { p with caught := [] }
  for s in p.caught.reverse do
    if let some action := i.traps.lookup (.signal s) then
      push (.afterTrap (← status) (.signal s))
      push (.script (scanOf i action 1))

/-- The plain dialect waits for children that have ended before it runs a trap for that. -/
def isOver (v : Variables) (m : Machine) (task : Task) (caught : List Signal) : Bool :=
  match task with
  | .await processes _ true =>
      !v.isExtended && !processes.any m.isAlive && caught.all (· = .childEnded)
  | _ => false

def step : Act Unit := do
  let p ← process
  let i ← shell
  match i.tasks, p.caught with
  | [], _ :: _ => beginTraps
  | [], [] => exitShell i.vars.status
  | task :: rest, caught =>
      match caught with
      | _ :: _ =>
          if isBusy task || isOver i.vars (← machine) task caught then do
            setTasks rest
            perform task
          else beginTraps
      | [] => do
          setTasks rest
          perform task

end Shell

end Conformance
