import Conformance.Computer.Machine.Basic
import Conformance.Computer.Text.Regex
import Conformance.Computer.Utility.Test

/-!
# What commands come to when their words are expanded

The arguments of a simple command, the targets of its redirections and its assignments, the arm of a
choice, and the outcome of a condition.
-/

namespace Conformance

namespace Shell

/-! ## Arguments -/

/-- Whether the words behind declare variables: that hangs on the name of the command, which may
have the names of commands that run commands in front of it. -/
inductive Role where
  | unknown
  | declares
  | plain
  deriving DecidableEq, Repr

def runningWords (extended : Bool) : List String :=
  if extended then ["command", "builtin"] else ["command"]

def Role.behind (extended : Bool) (role : Role) (word : Octets) : Role :=
  let declaring := if extended then declarationWords else ["export", "readonly", "local"]
  if role != .unknown then role
  else if (runningWords extended).any (·.toList = word) || word.head? == some '-' then .unknown
  else if declaring.any (·.toList = word) then .declares
  else .plain

def looksAssigned (extended : Bool) (word : Word) : Bool :=
  match word with
  | .text s false :: _ =>
      match assignmentAt? extended s with
      | some _ => true
      | none => false
  | _ => false

/-- The value behind the equality sign of a word that looks like an assignment; the part up to the
sign stays as it is. -/
def expandAssigned (word : Word) : Expand Octets := do
  match word with
  | .text s false :: rest =>
      let front := s.takeWhile (· != '=')
      let value ← expandValue (.text (s.drop (front.length + 1)) false :: rest)
      return front ++ '=' :: value
  | word => do return Atom.text (← expandWord word)

def listedIn? (word : Word) : Option (Octets × Bool × List Item) :=
  match word with
  | [.text s false, .items l] =>
      let front := s.takeWhile (· != '=')
      if front.getLast? == some '+' then some (front.dropLast, true, l) else some (front, false, l)
  | _ => none

def expandArgs (s : Surroundings) (extended : Bool) (role : Role) :
    List Word → Expand (List Octets × List Listed)
  | [] => return ([], [])
  | word :: rest => do
      match (if role = .declares then listedIn? word else none) with
      | some (name, appends, l) => do
          let items ← expandItems s l
          let (args, arrays) ← expandArgs s extended role rest
          return (name :: args, ⟨name, appends, items⟩ :: arrays)
      | none => do
          let fields ← if role = .declares && looksAssigned extended word then do
              pure [← expandAssigned word]
            else expandFields s word
          -- The extended dialect looks at the words as they are written.
          let next := if extended then
              (match word with
                | [.text t false] => role.behind true t
                | _ => if role = .unknown then .plain else role)
            else fields.foldl (Role.behind false) role
          let (args, arrays) ← expandArgs s extended next rest
          return (fields ++ args, arrays)

/-! ## Redirections -/

def expandTarget (s : Surroundings) (r : Redirection) : Expand Aimed := do
  let aim (target : Octets) (isAmbiguous : Bool) : Aimed :=
    ⟨r.descriptor, r.holder?, r.kind, target, isAmbiguous⟩
  match r.kind with
  | .here => return aim (Atom.text (← expandRaw r.target)) false
  | .hereWord => return aim (Atom.text (← expandWord r.target)) false
  | _ =>
      if !(← Expand.vars).isExtended then return aim (Atom.text (← expandWord r.target)) false
      else match ← expandFields s r.target with
        | [target] => return aim target false
        | fields => return aim (List.intercalate [' '] fields) true

/-! ## Simple commands -/

/-- Expands the words of a simple command: its arguments first, then its redirections, and in the end
its assignments. -/
def prepare (s : Surroundings) (origin : Origin) (assignments : List Assignment) (words : List Word)
    (redirections : List Redirection) : Expand Prepared := do
  let extended := (← Expand.vars).isExtended
  let (args, arrays) ← expandArgs s extended .unknown words
  let redirections ← redirections.mapM (expandTarget s)
  let before ← Expand.vars
  let names ← assignments.mapM fun a => do
    let name ← expandAssignment s a
    return (name, ((← Expand.vars).value? name).getD [])
  let assigned := (names.map Prod.fst).eraseDups.map fun x => (x, before.find? x)
  return { origin, args, redirections, arrays, assigned, shown := names }

/-! ## Choices -/

def chooseArm (s : Octets) : List Arm → Expand (List Arm)
  | [] => return []
  | (patterns, body, behind) :: rest => do
      if ← matchesOne patterns then return (patterns, body, behind) :: rest else chooseArm s rest
where
  matchesOne : List Word → Expand Bool
    | [] => return false
    | word :: words => do
        let items ← expandPattern word
        let v ← Expand.vars
        if Pattern.accepts v.patternRules items (v.characters s) then return true
        else matchesOne words

/-! ## Conditions -/

def expressionText (marked : Marked) : List Char :=
  marked.flatMap fun (c, quoted) =>
    if quoted && "\\^$.[]|()*+?\x7b\x7d".toList.contains c then ['\\', c] else [c]

/-- Looks for an expression in a text, and takes down what its groups have matched. -/
def examineRegex (a : Word) (b : Word) : Expand Bool := do
  let text := Atom.text (← expandWord a)
  let marked := Atom.marked (← expandWord b)
  let v ← Expand.vars
  let expression := expressionText (if v.isWide then widen marked else marked)
  match Regex.parseStrictly .extended expression with
  | .error message =>
      Expand.fail ("invalid regular expression `".toList ++ textOf marked ++ "': ".toList ++
        message.toList)
  | .ok r => do
      let t : Regex.Subject := ⟨(v.characters text).toArray, ⟨.of (v.isSet "nocasematch") v.isWide, false⟩⟩
      let groups := match Regex.find? t r 0 with
        | some m => (List.range (r.groupCount + 1)).map fun n =>
            v.ofCharacters ((m.group? t n).getD [])
        | none => []
      Expand.modifyVars fun v => v.setValue "BASH_REMATCH".toList (.ofList groups)
      return !groups.isEmpty

def examine (subject : Utility.Test.Subject) : Condition → Expand Bool
  | .filled word => do return !(Atom.text (← expandWord word)).isEmpty
  | .unary op word => do
      let arg := Atom.text (← expandWord word)
      match Utility.Test.unary subject op arg with
      | .ok outcome => return outcome
      | .error message => Expand.fail message
  | .binary op a b => do
      let compare (p : Int → Int → Bool) : Expand Bool := do
        let m ← Expand.arithmetic (Atom.text (← expandWord a))
        let n ← Expand.arithmetic (Atom.text (← expandWord b))
        return p m n
      let accepts : Expand Bool := do
        let text := Atom.text (← expandWord a)
        let items ← expandPattern b
        let v ← Expand.vars
        return Pattern.accepts { v.patternRules with alternatives := true } items (v.characters text)
      if op = "=~".toList then examineRegex a b
      else if op = "=".toList || op = "==".toList then accepts
      else if op = "!=".toList then do return !(← accepts)
      else if op = "-eq".toList then compare fun m n => m = n
      else if op = "-ne".toList then compare fun m n => m ≠ n
      else if op = "-lt".toList then compare fun m n => m < n
      else if op = "-le".toList then compare fun m n => m ≤ n
      else if op = "-gt".toList then compare fun m n => m > n
      else if op = "-ge".toList then compare fun m n => m ≥ n
      else do
        let left := Atom.text (← expandWord a)
        let right := Atom.text (← expandWord b)
        match Utility.Test.binary subject left op right with
        | .ok outcome => return outcome
        | .error message => Expand.fail message
  | .not c => do return !(← examine subject c)
  | .grouped c => examine subject c
  | .both a b => do if ← examine subject a then examine subject b else return false
  | .either a b => do if ← examine subject a then return true else examine subject b

end Shell

end Conformance
