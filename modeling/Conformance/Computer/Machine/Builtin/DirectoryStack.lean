import Conformance.Computer.Machine.Builtin.Place

/-!
# The directories that a shell has set aside

A shell remembers directories to come back to.  They stand behind its working directory, which
counts as the first one; a place among them is counted from either end.
-/

namespace Conformance

namespace Shell

namespace Builtin

open Act

/-- The working directory and those set aside, the newest first. -/
def directoryStack : Act (List Octets) := return (← here) :: (← vars).aside

def setAside (l : List Octets) : Act Unit := modifyVariables fun v => { v with aside := l }

def printStack (c : Call) : Act Unit := do
  let v ← vars
  printWith c (Utility.joinWith [' '] ((← directoryStack).map (withTilde v)) ++ ['\n']) 0

/-- What is asked for with a sign and a number in front of the operands. -/
structure StackRequest where
  letters : List Char
  place : Option (Char × Nat × Octets)
  operands : List Octets

/-- The request has neither a letter that is not known nor a number that is none; the message tells
what is wrong otherwise. -/
def stackRequest (known : List Char) : List Octets → Except Octets StackRequest
  | [] => .ok ⟨[], none, []⟩
  | ['-', '-'] :: rest => .ok ⟨[], none, rest⟩
  | ['-', d] :: rest =>
      if known.contains d then
        (stackRequest known rest).map fun r => { r with letters := d :: r.letters }
      else match Utility.readNat? [d] with
        | some n => (stackRequest known rest).map (placed '-' n ['-', d])
        | none => .error (['-', d] ++ ": invalid number".toList)
  | (sign :: digits) :: rest =>
      if (sign == '+' || sign == '-') && !(sign == '-' && digits.isEmpty) then
        match Utility.readNat? digits with
        | some n => (stackRequest known rest).map (placed sign n (sign :: digits))
        | none => .error (sign :: digits ++ ": invalid number".toList)
      else .ok ⟨[], none, (sign :: digits) :: rest⟩
  | args => .ok ⟨[], none, args⟩
where
  -- Of several places the last one counts.
  placed (sign : Char) (n : Nat) (word : Octets) (r : StackRequest) : StackRequest :=
    { r with place := some (r.place.getD (sign, n, word)) }

/-- The place from the left that a sign and a number mean among some directories. -/
def stackPlace? (size : Nat) (sign : Char) (n : Nat) : Option Nat :=
  if n ≥ size then none else if sign == '+' then some n else some (size - 1 - n)

def withStackRequest (c : Call) (known : List Char) (usage : String)
    (k : StackRequest → Act Unit) : Act Unit := do
  match stackRequest known c.args with
  | .ok r => k r
  | .error message => do
      complain (c.name ++ ": ".toList ++ message)
      write 2 (c.name ++ ": usage: ".toList ++ usage.toList ++ ['\n'])
      setStatus 2

def noSuchPlace (c : Call) (word : Octets) : Act Unit := do
  if (← vars).aside.isEmpty then failWith c "directory stack empty".toList 1
  else failWith c (word ++ ": directory stack index out of range".toList) 1

def dirsUsage : String := "dirs [-clpv] [+N] [-N]"

def dirsCommand (c : Call) : Act Unit :=
  withStackRequest c "clpv".toList dirsUsage fun r => do
    let all ← directoryStack
    let v ← vars
    let shown (path : Octets) : Octets := if r.letters.contains 'l' then path else withTilde v path
    let numbered (n : Nat) (path : Octets) : Octets :=
      if r.letters.contains 'v' then
        Utility.padLeft 2 (Octets.ofNat n) ++ "  ".toList ++ shown path
      else shown path
    match r.operands, r.place with
    | word :: _, _ => do
        complain (c.name ++ ": ".toList ++ word ++ ": invalid option".toList)
        write 2 (c.name ++ ": usage: ".toList ++ dirsUsage.toList ++ ['\n'])
        setStatus 2
    | [], place? =>
        if r.letters.contains 'c' then do
          setAside []
          setStatus 0
        else match place? with
        | none =>
            let lines := all.zipIdx.map fun (path, n) => numbered n path
            let separator := if r.letters.contains 'v' || r.letters.contains 'p' then '\n' else ' '
            printWith c (Utility.joinWith [separator] lines ++ ['\n']) 0
        | some (sign, n, word) =>
            match stackPlace? all.length sign n with
            | some k => printWith c (numbered k (all.getD k []) ++ ['\n']) 0
            | none => noSuchPlace c (word.drop 1)

def goFor (c : Call) (target : Octets) : Act Bool := do
  cdCommand { c with args := [target] }
  return (← vars).status == 0

def pushdCommand (c : Call) : Act Unit :=
  withStackRequest c ['n'] "pushd [-n] [+N | -N | dir]" fun r => do
    let all ← directoryStack
    let stays := r.letters.contains 'n'
    /- The working directory is the first one, and the others are set aside. -/
    let turnTo (l : List Octets) : Act Unit := do
      setAside (l.drop 1)
      if stays then setStatus 0
      else if ← goFor c (l.headD []) then printStack c
      else setStatus 1
    match r.place, r.operands with
    | some (sign, n, word), _ =>
        match stackPlace? all.length sign n with
        | some k => turnTo (all.drop k ++ all.take k)
        | none => noSuchPlace c word
    | none, [] =>
        if !c.args.isEmpty then setStatus 0
        else match all with
        | first :: second :: rest => turnTo (second :: first :: rest)
        | _ => failWith c "no other directory".toList 1
    | none, target :: _ => do
        let added (path : Octets) : Act Unit := do
          modifyVariables fun v => { v with aside := path :: v.aside }
          printStack c
        if stays then added target
        else if ← goFor c target then added (all.headD [])
        else setStatus 1

def popdCommand (c : Call) : Act Unit :=
  withStackRequest c ['n'] "popd [-n] [+N | -N]" fun r => do
    let all ← directoryStack
    let (sign, n, word) := r.place.getD ('+', 0, [])
    match r.operands, stackPlace? all.length sign n with
    | target :: _, _ => do
        complain (c.name ++ ": ".toList ++ target ++ ": invalid argument".toList)
        write 2 (c.name ++ ": usage: popd [-n] [+N | -N]\n".toList)
        setStatus 2
    | [], none => noSuchPlace c word
    | [], some 0 =>
        match all with
        | _ :: next :: rest => do
            if r.letters.contains 'n' then setAside rest
            else if ← goFor c next then setAside rest
            else return
            printStack c
        | _ => noSuchPlace c word
    | [], some k => do
        setAside ((all.eraseIdx k).drop 1)
        printStack c

end Builtin

end Shell

end Conformance
