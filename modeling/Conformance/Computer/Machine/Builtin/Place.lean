import Conformance.Computer.Machine.Builtin.Basic

/-!
# Builtins for the working directory

They move the shell to other directories, whose names it remembers as they were asked for.
-/

namespace Conformance

namespace Shell

namespace Builtin

open Act

/-- The names of a path from the top, where two dots take the name before them away. -/
def plainNames (path : Octets) : List Octets :=
  (Utility.splitAt '/' path).foldl (fun names name =>
    if name.isEmpty || name = ['.'] then names
    else if name = ['.', '.'] then names.dropLast
    else names ++ [name]) []

def ofNames (names : List Octets) : Octets :=
  if names.isEmpty then ['/'] else names.flatMap fun n => '/' :: n

def physicalHere : Act Octets := do
  return Octets.ofString (← process).directory.toPath.text

/-- The name under which the shell knows its working directory. -/
def here : Act Octets := return (← shell).place

def goTo (physical : Bool) (target : Octets) : Act (Except IoError Octets) := do
  let old ← here
  let whole := if target.head? == some '/' then target else old ++ '/' :: target
  let path := if physical then target else ofNames (plainNames whole)
  let p ← process
  match (← machine).tree.lookup p.directory (Utility.pathOf path) true with
  | .ok (location, .directory) =>
      if !((← machine).tree.stamp? location).any Stamp.isExecutable then
        return .error (.os .accessDenied)
      else do
        modifyProcess fun p => { p with directory := location }
        let name := if physical then Octets.ofString location.toPath.text else path
        let extended ← isExtended
        modifyShell fun i => { i with
          place := name
          -- The plain dialect looks again for what it has found.
          hashed := if extended then i.hashed else i.hashed.map fun h => { h with moved := true } }
        modifyVariables fun v =>
          let left := if extended then (v.value? "PWD".toList).getD [] else old
          let v := (v.set "OLDPWD".toList left).set "PWD".toList name
          let v := if extended then v else v.markExported "PWD".toList
          v.markExported "OLDPWD".toList
        return .ok name
  | .ok _ => return .error (.os .notDirectory)
  | .error e => return .error e

/-- The directories in which a relative target is looked for, and whether they are named. -/
def searchFor (v : Variables) (target : Octets) : List (Octets × Bool) :=
  let startsPlain := target.head? == some '/' || target = ['.'] || target = ['.', '.'] ||
    "./".toList.isPrefixOf target || "../".toList.isPrefixOf target
  match (if startsPlain then none else v.value? "CDPATH".toList) with
  | none => []
  | some search => (Utility.splitAt ':' search).map fun place =>
      if place.isEmpty then (target, false)
      else (if place.getLast? == some '/' then place ++ target else place ++ '/' :: target, true)

def cdCommand (c : Call) : Act Unit :=
  withLetters c "LP" "LPe@" "cd [-L|[-P [-e]] [-@]] [dir]" fun letters args => do
    let extended ← isExtended
    let v ← vars
    let physical := (letters.filter fun d => d == 'L' || d == 'P').getLast? == some 'P' || v.has 'P'
    let named? : Except String (Octets × Bool) := match args with
      | [] =>
          match v.value? "HOME".toList with
          | some home => .ok (home, false)
          | none => if extended then .error "HOME not set" else .ok ([], false)
      | ['-'] :: _ =>
          match v.value? "OLDPWD".toList with
          | some old => .ok (old, true)
          | none => if extended then .error "OLDPWD not set" else .ok ([], true)
      | t :: _ => .ok (t, false)
    if extended && args.length > 1 then failWith c "too many arguments".toList 1
    else match named? with
    | .error message => failWith c message.toList 1
    | .ok (target, prints) => do
        let p ← process
        let tree := (← machine).tree
        let found? := (searchFor v target).find? fun (path, _) =>
          tree.isDirectory p.directory (Utility.pathOf path)
        let (path, prints) := match found? with
          | some (path, named) => (path, prints || named)
          | none => (if target.isEmpty then ['.'] else target, prints)
        match ← goTo physical path with
        | .ok name => do
            setStatus 0
            if prints then printWith c (name ++ ['\n']) 0
        | .error e =>
            fail c ("can't cd to ".toList ++ target) (target ++ ": ".toList ++ Utility.errorText e) 1

def pwdCommand (c : Call) : Act Unit :=
  withLetters c "LP" "LPW" "pwd [-LP]" fun letters _ => do
    let text ← if letters.getLast? == some 'P' then physicalHere else here
    printWith c (text ++ ['\n']) 0

/-! ## The permissions of new files -/

def maskLetters (mask : Nat) : Octets :=
  let left := 0o777 ^^^ (mask &&& 0o777)
  let part (shift : Nat) : Octets :=
    (if left.testBit (shift + 2) then ['r'] else []) ++
      (if left.testBit (shift + 1) then ['w'] else []) ++
      (if left.testBit shift then ['x'] else [])
  "u=".toList ++ part 6 ++ ",g=".toList ++ part 3 ++ ",o=".toList ++ part 0

def umaskCommand (c : Call) : Act Unit :=
  withLetters c "S" "Sp" "umask [-p] [-S] [mode]" fun letters args => do
    let p ← process
    match args with
    | [] =>
        let text := if letters.contains 'S' then maskLetters p.mask
          else Utility.Files.octalMode p.mask
        printWith c ((if letters.contains 'p' then
          (if letters.contains 'S' then "umask -S " else "umask ").toList else []) ++ text ++ ['\n'])
          0
    | mode :: _ =>
        let setMask (mask : Nat) : Act Unit := do
          modifyProcess fun p => { p with mask := mask &&& 0o777 }
          setStatus 0
          if letters.contains 'S' && (← isExtended) then print (maskLetters mask ++ ['\n'])
        if mode.head?.any Char.isDigit then
          if mode.all fun d => '0' ≤ d && d ≤ '7' then
            setMask (mode.foldl (fun n d => 8 * n + (d.toNat - '0'.toNat)) 0)
          else
            fail c ("Illegal number: ".toList ++ mode)
              (mode ++ ": octal number out of range".toList) 1
        else match Utility.Files.changedMode? false 0 mode (0o777 ^^^ (p.mask &&& 0o777)) with
          | some left => setMask (0o777 ^^^ (left &&& 0o777))
          | none =>
              fail c ("Illegal mode: ".toList ++ mode)
                (quotedInMessage mode ++ ": invalid symbolic mode operator".toList) 1

end Builtin

end Shell

end Conformance
