import Conformance.Computer.Machine.Builtin.Variables

/-!
# Builtins that read

They take lines from a descriptor and share out their words among variables.
-/

namespace Conformance

namespace Shell

namespace Builtin

open Act

/-! ## Taking a line -/

/-- How far the taking of a line has come: the characters, newest first, how many there are, and how
many bytes are missing from the last one. -/
structure Cut where
  taken : Marked
  count : Nat
  missing : Nat

namespace Cut

def following (wide : Bool) (c : Char) : Nat :=
  if !wide || c.toNat < 0xC2 then 0
  else if c.toNat < 0xE0 then 1
  else if c.toNat < 0xF0 then 2
  else if c.toNat < 0xF5 then 3 else 0

def add (wide : Bool) (cut : Cut) (c : Char) (quoted : Bool) : Cut :=
  if cut.missing > 0 then
    { cut with taken := (c, quoted) :: cut.taken, missing := cut.missing - 1 }
  else ⟨(c, quoted) :: cut.taken, cut.count + 1, following wide c⟩

end Cut

/-- Takes a line from the front of a text; `none` if its end is not there yet.  Also gives what
follows, and whether the end was found. -/
def cutLine (r : LineRequest) (wide ended : Bool) (cut : Cut) : Octets → Option (Marked × Octets × Bool)
  | [] =>
      if r.count = some cut.count && cut.missing = 0 then some (cut.taken.reverse, [], true)
      else if ended then some (cut.taken.reverse, [], false) else none
  | c :: rest =>
      if r.count = some cut.count && cut.missing = 0 then
        some (cut.taken.reverse, c :: rest, true)
      else if c == r.ending && !r.exactly then some (cut.taken.reverse, rest, true)
      else if c == '\\' && !r.raw then
        match rest with
        | [] => if ended then some (cut.taken.reverse, [], false) else none
        | d :: rest =>
            if d == '\n' then cutLine r wide ended cut rest
            else cutLine r wide ended (cut.add wide d true) rest
      else if c == '\x00' then cutLine r wide ended cut rest
      else cutLine r wide ended (cut.add wide c false) rest

def cutField (separators : Octets) (line : Marked) : Marked × Marked :=
  let separates (c : Char × Bool) : Bool := !c.2 && separators.contains c.1
  let blank (c : Char × Bool) : Bool := separates c && Splitting.isBlankSeparator c.1
  let line := line.dropWhile blank
  let field := line.takeWhile fun c => !separates c
  let rest := (line.drop field.length).dropWhile blank
  let rest := match rest with
    | c :: after => if separates c then after.dropWhile blank else c :: after
    | [] => []
  (field, rest)

/-- Gives each variable a field of the line, and the last one all that is left. -/
def shareLine (separators : Octets) : List Octets → Marked → List (Octets × Octets)
  | [], _ => []
  | [x], line =>
      let blank (c : Char × Bool) : Bool :=
        !c.2 && separators.contains c.1 && Splitting.isBlankSeparator c.1
      let trimmed := ((line.dropWhile blank).reverse.dropWhile blank).reverse
      -- A separator behind the only field that is left does not count.
      let (field, rest) := cutField separators trimmed
      [(x, textOf (if rest.isEmpty then field else trimmed))]
  | x :: rest, line =>
      let (field, line) := cutField separators line
      (x, textOf field) :: shareLine separators rest line

def assignShares : List (Octets × Octets) → Act Bool
  | [] => return true
  | (x, s) :: rest => do
      if ← assign x s then assignShares rest else return false

def takeLine (r : LineRequest) (line : Marked) (status : Nat) : Act Unit := do
  let v ← vars
  match r.array with
  | some x =>
      let atoms := line.map fun (c, quoted) => Atom.char c quoted true
      let fields := (fieldsOf v.separators atoms).map textOf
      let fine ← attempt (Expand.assignItems x false (fields.map fun t => ⟨none, false, t⟩))
      if fine then setStatus status
  | none =>
      let shares := match r.names with
        | [] => [("REPLY".toList, textOf line)]
        | x :: rest =>
            if r.exactly then (x, textOf line) :: rest.map fun y => (y, [])
            else shareLine v.separators (x :: rest) line
      if ← assignShares shares then setStatus status

def readLine (r : LineRequest) (taken : Octets) : Act Unit := do
  let v ← vars
  match (← channels).get? r.descriptor with
  | none =>
      if v.isExtended then
        complain ("read: read error: ".toList ++ Octets.ofNat r.descriptor ++
          ": Bad file descriptor".toList)
      takeLine r [] 1
  | some channel => do
      let m ← machine
      let late := r.deadline.any (· ≤ m.clock)
      let (got, after) := m.read channel
      let settle (ended : Bool) (text : Octets) (status : Nat) : Act Unit := do
        match cutLine r v.isWide ended ⟨[], 0, 0⟩ text with
        | none => push (.readLine r text)
        | some (line, rest, found) => do
            modifyWorld fun m => m.unread channel rest
            takeLine r line (if found then 0 else status)
      match got with
      | .later => if late then settle true taken 142 else push (.readLine r taken)
      | .data s => do
          setWorld after
          settle false (taken ++ s) 1
      | .ended => settle true taken 1
      | .refused e => do
          if v.isExtended then
            complain ("read: read error: ".toList ++ Octets.ofNat r.descriptor ++ ": ".toList ++
              Utility.errorText (.os e))
          settle true taken 1

/-! ## The command that reads -/

/-- The options of the reading command with their values, newest first, and the names. -/
def readOptions (withValue flags : List Char) : Nat → List Octets →
    Except Char (List (Char × Octets) × List Octets)
  | 0, args => .ok ([], args)
  | _, [] => .ok ([], [])
  | _, ['-', '-'] :: rest => .ok ([], rest)
  | fuel + 1, ('-' :: c :: letters) :: rest =>
      if flags.contains c then
        let left := if letters.isEmpty then rest else ('-' :: letters) :: rest
        (readOptions withValue flags fuel left).map fun (o, names) => ((c, []) :: o, names)
      else if withValue.contains c then
        match letters, rest with
        | [], value :: rest =>
            (readOptions withValue flags fuel rest).map fun (o, names) => ((c, value) :: o, names)
        | [], [] => .error c
        | value, rest =>
            (readOptions withValue flags fuel rest).map fun (o, names) => ((c, value) :: o, names)
      else .error c
  | _, args => .ok ([], args)

def readUsage : Octets :=
  ("read: usage: read [-ers] [-a array] [-d delim] [-i text] [-n nchars] [-N nchars] [-p prompt] " ++
    "[-t timeout] [-u fd] [name ...]\n").toList

def readCommand (c : Call) : Act Unit := do
  let v ← vars
  let extended := v.isExtended
  let size := (c.args.map List.length).foldl (· + ·) 1
  match (if extended then readOptions "adinNptu".toList "ers".toList size c.args
    else readOptions ['p'] ['r'] size c.args) with
  | .error d =>
      if extended then do
        if "adinNptu".toList.contains d then
          complain ("read: -".toList ++ [d] ++ ": option requires an argument".toList)
        else complain ("read: -".toList ++ [d] ++ ": invalid option".toList)
        write 2 readUsage
        setStatus 2
      else if d == 'p' then failWith c "No arg for -p option".toList 2
      else failWith c ("Illegal option -".toList ++ [d]) 2
  | .ok (options, names) =>
      let value? (letter : Char) : Option Octets := (options.reverse.lookup letter)
      let has (letter : Char) : Bool := (value? letter).isSome
      let count? := (value? 'N').orElse fun _ => value? 'n'
      let descriptor? := match value? 'u' with
        | some s => Utility.readNat? s
        | none => some 0
      let wait? := (value? 't').map Utility.Clock.readPause?
      if !extended && names.isEmpty then failWith c "arg count".toList 2
      else match names.find? fun x => !isName (nameAndIndex x).1, count?.map Utility.readNat?,
          descriptor?, wait? with
        | some x, _, _, _ =>
            if extended then failWith c (quotedInMessage x ++ ": not a valid identifier".toList) 1
            else failWith c (x ++ ": bad variable name".toList) 2
        | _, some none, _, _ =>
            failWith c ((count?.getD []) ++ ": invalid number".toList) 1
        | _, _, none, _ =>
            failWith c (((value? 'u').getD []) ++ ": invalid file descriptor specification".toList) 1
        | _, _, _, some none =>
            failWith c (((value? 't').getD []) ++ ": invalid timeout specification".toList) 1
        | none, count?, some descriptor, wait? => do
            let m ← machine
            match (← channels).get? descriptor, wait? with
            | none, _ =>
                if extended then do
                  failWith c (Octets.ofNat descriptor ++
                    ": invalid file descriptor: Bad file descriptor".toList) 1
                else setStatus 1
            | some channel, some (some 0) => setStatus (if m.isReadable channel then 0 else 1)
            | some _, wait? =>
                push (.readLine
                  { raw := has 'r'
                    names
                    array := value? 'a'
                    ending := match value? 'd' with
                      | some [] => '\x00'
                      | some (d :: _) => d
                      | none => '\n'
                    descriptor
                    count := count?.bind id
                    exactly := has 'N'
                    deadline := (wait?.bind id).map (m.clock + ·) } [])

end Builtin

end Shell

end Conformance
