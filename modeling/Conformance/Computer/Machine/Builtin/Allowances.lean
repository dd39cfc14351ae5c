import Conformance.Computer.Machine.Builtin.Basic

/-!
# Showing and changing allowances

A shell shows and changes what it and the processes that it starts may use.
-/

namespace Conformance

namespace Shell

namespace Builtin

open Act

/-- Which of the two numbers of an allowance are meant. -/
structure Sides where
  soft : Bool
  hard : Bool

/-- The resource with a letter, and the size of its unit, both as a dialect has them. -/
def resource? (extended : Bool) (letter : Char) : Option (Resource × Nat) :=
  let find (c : Char) : Option Resource := Resource.all.find? fun r => r.letter == c
  if extended then (find letter).map fun r => (r, r.size)
  else if letter == 'p' || letter == 'w' then
    (find (if letter == 'p' then 'u' else 'x')).map fun r => (r, 1)
  else if "tfdscmlnvr".toList.contains letter then
    (find letter).map fun r => (r, if letter == 'f' || letter == 'c' then 512 else r.size)
  else none

def plainTitles : List (Char × String) :=
  [('t', "time(seconds)"), ('f', "file(blocks)"), ('d', "data(kbytes)"), ('s', "stack(kbytes)"),
    ('c', "coredump(blocks)"), ('m', "memory(kbytes)"), ('l', "locked memory(kbytes)"),
    ('p', "process"), ('n', "nofiles"), ('v', "vmemory(kbytes)"), ('w', "locks"), ('r', "rtprio")]

/-- Fills a text up with blanks behind it, or with `left` in front of it. -/
def padded (width : Nat) (left : Bool) (s : Octets) : Octets :=
  let blanks := List.replicate (width - s.length) ' '
  if left then blanks ++ s else s ++ blanks

def amountText (amount : Option Nat) (unit : Nat) : Octets :=
  match amount with
  | none => "unlimited".toList
  | some n => Octets.ofNat (n / unit)

def resourceLine (r : Resource) (amount : Option Nat) : Octets :=
  let unit := "(".toList ++ (if r.unit.isEmpty then [] else r.unit.toList ++ ", ".toList) ++
    ['-', r.letter] ++ ") ".toList
  padded 20 false r.title.toList ++ ' ' :: padded 20 true unit ++ amountText amount r.size ++ ['\n']

def allowance (r : Resource) : Act Allowance := do return (← process).allowances.get r

def setAllowance (r : Resource) (sides : Sides) (amount : Option Nat) : Act (Except Errno Unit) := do
  let old ← allowance r
  let new : Allowance := ⟨if sides.soft then amount else old.soft,
    if sides.hard then amount else old.hard⟩
  match if r.letter == 'p' then .error .invalid else old.change new with
  | .error e => return .error e
  | .ok new => do
      modifyProcess fun p => { p with allowances := p.allowances.put r new }
      return .ok ()

/-- The options: letters of resources, each with an amount that may follow it in the extended
dialect, and which side of all resources or of those is meant. -/
structure AllowanceRequest where
  sides : Sides
  listsAll : Bool
  asked : List (Char × Option Octets)

def readAllowanceOptions (extended : Bool) (r : AllowanceRequest) :
    Nat → List Octets → Except Char (AllowanceRequest × List Octets)
  | 0, args => .ok (r, args)
  | _, [] => .ok (r, [])
  | _, ['-', '-'] :: rest => .ok (r, rest)
  | fuel + 1, ('-' :: c :: letters) :: rest =>
      let behind : List Octets := if letters.isEmpty then rest else ('-' :: letters) :: rest
      match c with
      | 'S' => readAllowanceOptions extended { r with sides := { r.sides with soft := true } } fuel behind
      | 'H' => readAllowanceOptions extended { r with sides := { r.sides with hard := true } } fuel behind
      | 'a' => readAllowanceOptions extended { r with listsAll := true } fuel behind
      | c =>
          if (resource? extended c).isNone then .error c
          else if !extended then
            readAllowanceOptions extended { r with asked := r.asked ++ [(c, none)] } fuel behind
          else if !letters.isEmpty then
            readAllowanceOptions extended { r with asked := r.asked ++ [(c, some letters)] } fuel rest
          else match rest with
            | amount :: more =>
                if amount.head? == some '-' then
                  readAllowanceOptions extended { r with asked := r.asked ++ [(c, none)] } fuel rest
                else
                  readAllowanceOptions extended { r with asked := r.asked ++ [(c, some amount)] } fuel
                    more
            | [] => .ok ({ r with asked := r.asked ++ [(c, none)] }, [])
  | _, args => .ok (r, args)

def handleAllowance (c : Call) (sides : Sides) (titled : Bool) (letter : Char)
    (amount : Option Octets) : Act Bool := do
  match resource? true letter with
  | none => return false
  | some (r, unit) => do
      let present ← allowance r
      match amount with
      | none => do
          let shown := if sides.soft || !sides.hard then present.soft else present.hard
          print (if titled then resourceLine r shown else amountText shown unit ++ ['\n'])
          return true
      | some text => do
          let sides : Sides := if !sides.soft && !sides.hard then ⟨true, true⟩ else sides
          let new? : Option (Option Nat) :=
            if text = "hard".toList then some present.hard
            else if text = "soft".toList then some present.soft
            else if text = "unlimited".toList then some none
            else (Utility.readNat? text).map fun n => some (n * unit)
          match new? with
          | none => do
              failWith c (text ++ ": invalid number".toList) 1
              return false
          | some new => do
              match ← setAllowance r sides new with
              | .ok _ => return true
              | .error e => do
                  failWith c (r.title.toList ++ ": cannot modify limit: ".toList ++ e.text.toList) 1
                  return false

def extendedUlimit (c : Call) : Act Unit := do
  match readAllowanceOptions true ⟨⟨false, false⟩, false, []⟩
      (c.args.foldl (fun n a => n + a.length + 1) 1) c.args with
  | .error d => do
      complain ("ulimit: -".toList ++ [d] ++ ": invalid option".toList)
      write 2 "ulimit: usage: ulimit [-SHabcdefiklmnpqrstuvxPRT] [limit]\n".toList
      setStatus 2
  | .ok (r, rest) => do
      setStatus 0
      if r.listsAll then
        for resource in Resource.all do
          let a ← allowance resource
          print (resourceLine resource (if r.sides.soft || !r.sides.hard then a.soft else a.hard))
      else do
        let asked := if r.asked.isEmpty then [('f', rest.head?)] else r.asked
        let mut goesOn := true
        for (letter, amount) in asked do
          if goesOn then goesOn ← handleAllowance c r.sides (decide (1 < asked.length)) letter amount

def plainUlimit (c : Call) : Act Unit := do
  match readAllowanceOptions false ⟨⟨false, false⟩, false, []⟩
      (c.args.foldl (fun n a => n + a.length + 1) 1) c.args with
  | .error d => failWith c ("Illegal option -".toList ++ [d]) 2
  | .ok (r, rest) => do
      let letter := (r.asked.getLast?.map Prod.fst).getD 'f'
      let sides : Sides := if !r.sides.soft && !r.sides.hard then ⟨true, true⟩ else r.sides
      let side (a : Allowance) : Option Nat := if sides.soft then a.soft else a.hard
      let bad (message : String) : Act Unit := failWith c message.toList 2
      match rest with
      | [] => do
          setStatus 0
          for (l, title) in plainTitles do
            match resource? false l with
            | some (resource, unit) => do
                let amount := amountText (side (← allowance resource)) unit ++ ['\n']
                if r.listsAll then print (padded 20 false title.toList ++ ' ' :: amount)
                else if l == letter then print amount
            | none => pure ()
      | text :: more =>
          if r.listsAll || !more.isEmpty then bad "too many arguments"
          else
            let amount? : Option (Option Nat) := if text = "unlimited".toList then some none
              else if text.all Char.isDigit then some (some ((Utility.readNat? text).getD 0))
              else none
            match amount?, resource? false letter with
            | some amount, some (resource, unit) => do
                match ← setAllowance resource sides (amount.map (· * unit)) with
                | .ok _ => setStatus 0
                | .error e => failWith c ("error setting limit (".toList ++ e.text.toList ++ [')']) 2
            | _, _ => bad "bad number"

def ulimitCommand (c : Call) : Act Unit := do
  if ← isExtended then extendedUlimit c else plainUlimit c

end Builtin

end Shell

end Conformance
