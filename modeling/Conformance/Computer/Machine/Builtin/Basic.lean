import Conformance.Computer.Machine.Redirect
import Conformance.Computer.Shell.Fields

/-!
# Builtins

The commands that a shell carries out itself: what they are given, how they fail, and how they
change the list of what the shell has to do.
-/

namespace Conformance

namespace Shell

/-- A builtin that is called.  Where it is special, its errors end a shell of the plain dialect. -/
structure Call where
  name : Octets
  args : List Octets
  arrays : List Listed
  isSpecial : Bool

namespace Builtin

open Act

/-! ## Tasks that are dropped -/

def undo (t : Task) : Act Unit := modifyProcess (·.undo t)

def undoAll (tasks : List Task) : Act Unit := modifyProcess fun p => tasks.foldl Process.undo p

/-- Goes on where the script is read, as after a command that came to nothing. -/
def unwind : Act Unit := do
  let tasks := (← shell).tasks
  let above := tasks.takeWhile fun t => match t with
    | .script _ | .readScript _ | .endOfEval | .afterTrap .. => false
    | _ => true
  undoAll above
  setTasks (tasks.drop above.length)

/-- Fails in a way that ends what the script is doing: a shell of the plain dialect, and any shell
where it is `fatal`. -/
def interrupt (message : Octets) (fatal : Bool) : Act Unit := do
  complain message
  if !(← isExtended) then exitShell 2
  else if fatal then do
    undoAll (← shell).tasks
    exitShell (if (← vars).has 'c' then 127 else 1)
  else do
    setStatus 1
    unwind

/-- What messages say about the place of a command besides its line. -/
def placeMark (i : Interpreter) : Octets :=
  if i.vars.isExtended then []
  else (i.tasks.findSome? fun t => match t with
    | .endOfEval => some "eval: ".toList
    | .endOfSource file _ => some (file ++ ": ".toList)
    | _ => none).getD []

/-- Prints a message about a command that is not the work of a builtin. -/
def report (message : Octets) : Act Unit := do
  complain (placeMark (← shell) ++ message)

/-! ## Failing -/

def fail (c : Call) (plain extended : Octets) (extendedStatus : Nat) : Act Unit := do
  if ← isExtended then do
    complain (c.name ++ ": ".toList ++ extended)
    setStatus extendedStatus
  else do
    complain (c.name ++ ": ".toList ++ plain)
    if c.isSpecial then exitShell 2 else setStatus 2

def failWith (c : Call) (message : Octets) (extendedStatus : Nat) : Act Unit :=
  fail c message message extendedStatus

/-- Prints a note to standard error without the place in the script. -/
def note (c : Call) (message : Octets) : Act Unit :=
  write 2 (c.name ++ ": ".toList ++ message ++ ['\n'])

def quotedInMessage (s : Octets) : Octets := '`' :: s ++ ['\'']

def printWith (c : Call) (s : Octets) (n : Nat) : Act Unit := do
  match ← tryWrite 1 s with
  | none => setStatus n
  | some e =>
      if ← isExtended then do
        complain (c.name ++ ": write error: ".toList ++ Utility.errorText (.os e))
        setStatus 1
      else do
        complain (c.name ++ ": ".toList ++ c.name ++ ": I/O error".toList)
        setStatus 1

/-- The value in single quotes, in which a quote is written outside of them. -/
def quote (s : Octets) : Octets :=
  let pieces := Utility.splitAt '\'' s
  let quotes (n : Nat) : Octets := '"' :: List.replicate n '\'' ++ ['"']
  -- Quotes that follow one another stand together between double quotes.
  let rec go (fuel : Nat) : List Octets → Octets
    | [] => []
    | [p] => if p.isEmpty then [] else '\'' :: p ++ ['\'']
    | p :: rest =>
        match fuel with
        | 0 => []
        | fuel + 1 =>
          let run := rest.takeWhile List.isEmpty
          let n := if run.length = rest.length then rest.length else run.length + 1
          (if p.isEmpty then [] else '\'' :: p ++ ['\'']) ++ quotes n ++
            go fuel (rest.drop (n - 1))
  if s.isEmpty then "''".toList else go (pieces.length + 1) pieces

def sorted (names : List Octets) : List Octets := names.mergeSort fun a b => decide (a ≤ b)

/-! ## Expanding -/

def arithmetic (s : Octets) : Act (Except Octets Int) := do
  match (Expand.arithmetic s).run ⟨← vars, []⟩ with
  | .ok (n, e) => do
      modifyVariables fun _ => e.vars
      return .ok n
  | .error (.failed message _) => return .error message
  | .error (.needs ..) => return .error []

def assign (x s : Octets) : Act Bool := do
  match (Expand.assign x s).run ⟨← vars, []⟩ with
  | .ok (_, e) => do
      modifyVariables fun _ => e.vars
      return true
  | .error (.failed message _) => do
      interrupt message false
      return false
  | .error (.needs ..) => return false

def splitAssignment (s : Octets) : Octets × Option Octets :=
  let name := s.takeWhile (· != '=')
  match s.drop name.length with
  | [] => (name, none)
  | _ :: value => (name, some value)

def functionText (i : Interpreter) (name : Octets) : Octets :=
  ((i.functions.lookup name).map fun r => Layout.function name r.origin.written).getD []

def subject : Act Utility.Test.Subject := do
  let v ← vars
  let p ← process
  let m ← machine
  return {
    voice := if v.isExtended then .extendedShell else .plainShell
    tree := m.view p.channels m.tree
    directory := p.directory
    isOption := fun name =>
      match Launch.optionLetter? v.dialect name with
      | some letter => v.has letter
      | none => v.isSet (String.ofList name)
    isVariable := fun x => match nameAndIndex x with
      | (x, .whole) => (v.value? x).isSome
      | (x, .at [.text key _]) =>
          match v.lookup? x with
          | some value => value.entries.any fun e => e.1 = key
          | none => false
      | (x, _) => (v.lookup? x).isSome }

def lettersOf (known : List Char) : List Octets → Except Char (List Char × List Octets)
  | [] => .ok ([], [])
  | ['-', '-'] :: rest => .ok ([], rest)
  | ('-' :: c :: letters) :: rest =>
      match (c :: letters).find? fun d => !known.contains d with
      | some d => .error d
      | none => (lettersOf known rest).map fun (more, rest) => (c :: letters ++ more, rest)
  | args => .ok ([], args)

def withLetters (c : Call) (plain extended : String) (usage : String)
    (k : List Char → List Octets → Act Unit) : Act Unit := do
  let known := if ← isExtended then extended.toList else plain.toList
  match lettersOf known c.args with
  | .ok (letters, rest) => k letters rest
  | .error d =>
      if ← isExtended then do
        complain (c.name ++ ": -".toList ++ [d] ++ ": invalid option".toList)
        write 2 (c.name ++ ": usage: ".toList ++ usage.toList ++ ['\n'])
        setStatus 2
      else fail c ("Illegal option -".toList ++ [d]) [] 2

end Builtin

end Shell

end Conformance
