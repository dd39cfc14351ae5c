import Conformance.Computer.Utility.Records.State

/-!
# Reading and writing of programs

How a program over records takes one record after the other from its input, from files and from
commands, and how its output goes to files and commands.
-/

namespace Conformance

namespace Utility

namespace Records

/-! ## Records of a text -/

/-- How a text is cut into records. -/
inductive Separator where
  | char (c : Char)
  | paragraphs
  | matches (r : Regex)

def separatorOf (s : Octets) : Run Separator := do
  match s with
  | [] => return .paragraphs
  | [c] => return .char c
  | s => return .matches (← compiledRegex s)

/-- A text up to an empty line, and what follows it. -/
def paragraph (s : Octets) : Octets × Option Octets :=
  match s with
  | [] => ([], none)
  | '\n' :: '\n' :: rest => ([], some rest)
  | c :: rest =>
      let (t, after) := paragraph rest
      (c :: t, after)

def Stream.next (p : Separator) (s : Stream) : Run (Option (Octets × Stream)) := do
  let rest (t : Octets) : Stream := { s with text := t }
  let whole : Run (Option (Octets × Stream)) := do
    if s.goesOn then throw .needsInput
    else return if s.text.isEmpty then none else some (s.text, rest [])
  match p with
  | .char c =>
      let t := s.text.takeWhile (· != c)
      match s.text.drop t.length with
      | _ :: after => return some (t, rest after)
      | [] => whole
  | .paragraphs =>
      let text := s.text.dropWhile (· == '\n')
      match paragraph text with
      | (t, some after) => return some (t, rest (after.dropWhile (· == '\n')))
      | (t, none) =>
          if s.goesOn then throw .needsInput
          else if text.isEmpty then return none
          else return some (if t.getLast? == some '\n' then t.dropLast else t, rest [])
  | .matches r =>
      let t := subjectOf s.text
      match search r t 0 with
      | some (i, j) =>
          if i = j || (j = t.size && s.goesOn) then whole
          else return some (t.part 0 i, rest (t.part j t.size))
      | none => whole

def separator : Run Separator := do separatorOf ((← get).globalText "RS")

/-! ## Output -/

/-- How much is printed before it is passed on. -/
def blockSize : Nat := 4096

def printNow (descriptor : Nat) (s : Octets) : Run Unit :=
  modify fun st =>
    if s.isEmpty then st else { st with prints := st.prints.push ⟨descriptor, s⟩ }

def flushOutput : Run Unit := do
  let st ← get
  printNow 1 st.pending.reverse.flatten
  modify fun st => { st with pending := [], pendingSize := 0 }

def printOut (s : Octets) : Run Unit := do
  let st ← get
  let size := st.pendingSize + s.length
  set { st with pending := s :: st.pending, pendingSize := size }
  if size ≥ blockSize then
    let text := (s :: st.pending).reverse.flatten
    let whole := size / blockSize * blockSize
    printNow 1 (text.take whole)
    modify fun st => { st with pending := [text.drop whole], pendingSize := size - whole }

def flushFile (p : Setting) (o : Outlet) : Run Unit := do
  if !o.isCommand && !o.pending.isEmpty then
    let st ← get
    match writeFile p.context (st.tree.atTime p.context.now) o.name true
        o.pending.reverse.flatten with
    | .ok (tree, prints) => set { st with tree, prints := st.prints ++ prints.toArray }
    | .error _ => pure ()

def flushFiles (p : Setting) : Run Unit := do
  for o in (← get).outlets do flushFile p o
  modify fun st => { st with outlets := st.outlets.map fun o =>
    if o.isCommand then o else { o with pending := [] } }

def startCommand (p : Setting) (shell : String) (command : Octets) (input : Option Octets)
    (captures : Bool) : Run Ran := do
  let st ← get
  match p.context.ran[st.calls]? with
  | some ran => do
      let tree := if st.calls + 1 = p.context.ran.length then p.context.tree else ran.tree
      set { st with calls := st.calls + 1, tree }
      return ran
  | none => throw (.calls
      { args := [shell.toList, "-c".toList, command]
        environment := p.context.environment
        input
        captures })

def runCommand (p : Setting) (shell : String) (command : Octets) (captures : Bool) :
    Run Ran := do
  flushOutput
  flushFiles p
  startCommand p shell command none captures

def shellPath : String := "/bin/sh"

def statusNumber : ExitStatus → Nat
  | .code n => n
  | .signal s => 256 + s.number

/-- Closes a place that output goes to; a command runs now, with the output that was passed on when
it was opened standing before its own. -/
def closeOutlet (p : Setting) (o : Outlet) : Run Nat := do
  modify fun st => { st with outlets := st.outlets.filter fun x => x.name ≠ o.name }
  if o.isCommand then
    let ran ← startCommand p shellPath o.name (some o.pending.reverse.flatten) false
    return statusNumber ran.status
  flushFile p o
  return 0

/-- Closes all places that output goes to; fuel bounds their number. -/
def closeOutlets (p : Setting) (fuel : Nat) : Run Unit := do
  match fuel, (← get).outlets.find? Outlet.isCommand with
  | fuel + 1, some o => do
      let _ ← closeOutlet p o
      closeOutlets p fuel
  | _, _ => flushFiles p

def openOutlet (p : Setting) (name : Octets) (isCommand appends : Bool) : Run Unit := do
  if isCommand then
    flushOutput
    flushFiles p
  else
    let st ← get
    match (if name.isEmpty then .error (.os .noEntry)
      else writeFile p.context (st.tree.atTime p.context.now) name appends []) with
    | .ok (tree, _) => set { st with tree }
    | .error e => fail ("cannot open \"".toList ++ name ++ "\" for output (".toList ++
        errorText e ++ [')'])
  modify fun st => { st with outlets := ⟨name, isCommand, []⟩ :: st.outlets }

def printTo (p : Setting) (name : Octets) (isCommand appends : Bool) (s : Octets) : Run Unit := do
  if !isCommand && name = "/dev/stdout".toList then printOut s
  else if !isCommand && name = "/dev/stderr".toList then printNow 2 s
  else
    if !(← get).outlets.any fun o => o.name = name then openOutlet p name isCommand appends
    modify fun st => { st with outlets := st.outlets.map fun o =>
      if o.name = name then { o with pending := s :: o.pending } else o }

/-! ## Input -/

def inputNow (p : Setting) : Run Stream := do
  if (← get).inputOpened then return ⟨[], false⟩
  modify fun st => { st with inputOpened := true }
  return ⟨if p.context.inputFailure.isSome then [] else p.context.input,
    !p.context.inputEnded && p.context.inputFailure.isNone⟩

def contentNow (p : Setting) (file : Octets) : Run (Except IoError Stream) := do
  if isInput file then return .ok (← inputNow p)
  if isPipe p.context file && (p.context.gathered.lookup file).isNone then throw (.gathers file)
  let c := { p.context with tree := (← get).tree }
  return (contentOf c file).map fun s => ⟨s, false⟩

def isDirectoryError : IoError → Bool
  | .os e => e == .isDirectory
  | _ => false

/-- Sets a variable as an argument says that holds an equals sign. -/
def settingOf? (arg : Octets) : Option (Octets × Octets) :=
  let name := arg.takeWhile (· != '=')
  match name, arg.drop name.length with
  | c :: rest, _ :: value =>
      if (c.isAlpha || c == '_') && rest.all (fun d => d.isAlphanum || d == '_') then
        some (name, unescaped value)
      else none
  | _, _ => none

/-- Opens the next file that the arguments name; the input if they name none.  Fuel bounds the
number of arguments. -/
def openNext (p : Setting) (fuel : Nat) : Run Bool := do
  match fuel with
  | 0 => return false
  | fuel + 1 =>
    let st ← get
    let start (name : Octets) (s : Stream) : Run Bool := do
      modify fun st =>
        { (st.setGlobal "FILENAME" (.text name)).setGlobal "FNR" (.number 0.0) with
          main := some s
          hasOpened := true }
      return true
    let count := (wholePart (st.global "ARGC").toNumber).toNat
    if st.argument ≥ count then
      if st.hasOpened then return false
      match ← contentNow p ['-'] with
      | .ok s => start ['-'] s
      | .error _ => return false
    else
      set { st with argument := st.argument + 1 }
      let arguments ← readTable (← tableAt 2 0 "ARGV".toList)
      let arg := ((arguments.get? (.number (st.argument : Nat))).map st.textOf).getD []
      if arg.isEmpty then openNext p fuel
      else match settingOf? arg with
        | some (name, value) => do
            setVariable name (.ofInput value)
            openNext p fuel
        | none =>
            match ← contentNow p arg with
            | .ok s => start arg s
            | .error e =>
                if isDirectoryError e then
                  fail ("read error (".toList ++ errorText e ++ [')'])
                else fail ("cannot open \"".toList ++ arg ++ "\" (".toList ++ errorText e ++ [')'])

def countRecord : Run Unit :=
  modify fun st =>
    let up (st : State) (name : String) : State :=
      st.setGlobal name (.number ((st.global name).toNumber + 1.0))
    up (up st "NR") "FNR"

/-- The next record of the files; fuel bounds the number of files. -/
def nextRecord (p : Setting) (fuel : Nat) : Run (Option Octets) := do
  match fuel with
  | 0 => return none
  | fuel + 1 =>
    match (← get).main with
    | none =>
        if ← openNext p (fuel + 1) then nextRecord p fuel else return none
    | some s =>
        match ← s.next (← separator) with
        | some (t, rest) => do
            modify fun st => { st with main := some rest }
            countRecord
            return some t
        | none => do
            modify fun st => { st with main := none }
            nextRecord p fuel

def fileLimit : Run Nat := do
  return 2 * (wholePart ((← get).global "ARGC").toNumber).toNat + 6

/-- The next record of a file or a command: `none` if it cannot be read. -/
def readInlet (p : Setting) (name : Octets) (isCommand : Bool) :
    Run (Option (Option Octets)) := do
  let inlet? ← match (← get).inlets.find? fun i => i.name = name with
    | some i => pure (some i)
    | none =>
        if isCommand then do
          let ran ← runCommand p shellPath name true
          pure (some ⟨name, true, ⟨ran.output, false⟩, statusNumber ran.status⟩)
        else match ← contentNow p name with
          | .ok s => pure (some ⟨name, false, s, 0⟩)
          | .error e =>
              if isDirectoryError e then fail ("read error (".toList ++ errorText e ++ [')'])
              else pure none
  match inlet? with
  | none => return none
  | some i => do
      let next ← i.stream.next (← separator)
      let stream := match next with
        | some (_, rest) => rest
        | none => { i.stream with text := [] }
      modify fun st =>
        { st with inlets := { i with stream } :: st.inlets.filter fun x => x.name ≠ name }
      return some (next.map Prod.fst)

def closeNamed (p : Setting) (name : Octets) : Run Int := do
  let st ← get
  match st.outlets.find? fun o => o.name = name, st.inlets.find? fun i => i.name = name with
  | some o, _ => do
      let n ← closeOutlet p o
      return (n : Int)
  | none, some i => do
      set { st with inlets := st.inlets.filter fun x => x.name ≠ name }
      return (i.status : Int)
  | none, none => return -1

def flushNamed (p : Setting) (name : Octets) : Run Int := do
  if name = "/dev/stdout".toList then
    flushOutput
    return 0
  else match (← get).outlets.find? fun o => o.name = name with
    | some o => do
        flushFile p o
        modify fun st => { st with outlets := st.outlets.map fun x =>
          if x.name = name && !x.isCommand then { x with pending := [] } else x }
        return 0
    | none => return if name = "/dev/stderr".toList then 0 else -1

end Records

end Utility

end Conformance
