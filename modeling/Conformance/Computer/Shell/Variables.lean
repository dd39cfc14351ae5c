import Conformance.Computer.Shell.Layout

/-!
# Variables of a shell

The parameters that a shell expands: its variables, its arguments, and what it knows about itself.
A variable holds a text, or in the extended dialect an array of texts.
-/

namespace Conformance

namespace Shell

inductive Value where
  | text (s : Octets)
  | indexed (items : List (Nat × Octets))
  | keyed (items : List (Octets × Octets))
  deriving DecidableEq, Repr

/-- Letters are changed when a value is assigned. -/
inductive Casing where
  | upper
  | lower
  deriving DecidableEq, Repr

structure Variable where
  value : Option Value
  exported : Bool
  readOnly : Bool
  integer : Bool
  casing : Option Casing
  refers : Bool
  /-- An array that is declared, and has never been given anything. -/
  isBlank : Bool
  deriving DecidableEq, Repr

namespace Variable

def blank : Variable := ⟨none, false, false, false, none, false, false⟩

end Variable

namespace Value

/-- The number that is made of a key, to which each character adds. -/
def hash (key : Octets) : Nat :=
  (key.foldl (fun (h : UInt32) c => (h * 16777619) ^^^ c.toNat.toUInt32) 2166136261).toNat

/-- The place of a key among those of an array with names: arrays list their keys in this order. -/
def bucket (key : Octets) : Nat := hash key % 1024

/-- The keys and texts of a value, as an array lists them. -/
def entries : Value → List (Octets × Octets)
  | text s => [(['0'], s)]
  | indexed items => items.map fun (n, s) => (Octets.ofNat n, s)
  | keyed items => items.mergeSort fun a b => bucket a.1 ≤ bucket b.1

def texts (v : Value) : List Octets := v.entries.map Prod.snd

def isArray : Value → Bool
  | text _ => false
  | _ => true

/-- The text that stands for the whole value: of an array, the one with number zero. -/
def main? : Value → Option Octets
  | text s => some s
  | indexed items => items.lookup 0
  | keyed items => items.lookup ['0']

def putAt (items : List (Nat × Octets)) (n : Nat) (s : Octets) : List (Nat × Octets) :=
  items.takeWhile (fun i => i.1 < n) ++ (n, s) :: items.filter fun i => i.1 > n

def nextIndex (items : List (Nat × Octets)) : Nat := (items.getLast?.map fun i => i.1 + 1).getD 0

def place? (items : List (Nat × Octets)) (n : Int) : Option Nat :=
  let n := if n < 0 then n + nextIndex items else n
  if n < 0 then none else some n.toNat

def ofList (l : List Octets) : Value := indexed (l.zipIdx.map fun (s, n) => (n, s))

end Value

structure Variables where
  dialect : Dialect
  entries : List (Octets × Variable)
  name : Octets
  args : List Octets
  status : Nat
  processId : Nat
  /-- The number of the process that runs, which differs in a copy of the shell. -/
  ownId : Nat
  lastBackground : Option Nat
  options : List Char
  settings : List String
  line : Nat
  command : Origin
  copies : Nat
  clock : Nat
  ahead : Int
  seed : Nat
  random : Nat
  /-- The variables that the shell kept itself until they were unset. -/
  given : List Octets
  aside : List Octets
  deriving Repr

namespace Variables

def find? (v : Variables) (x : Octets) : Option Variable := v.entries.lookup x

def isExtended (v : Variables) : Bool := v.dialect == .extended

def has (v : Variables) (option : Char) : Bool := v.options.contains option

def isSet (v : Variables) (setting : String) : Bool := v.settings.contains setting

def resolve (v : Variables) (x : Octets) : Octets :=
  follow 8 x
where
  follow (fuel : Nat) (x : Octets) : Octets :=
    match fuel, v.find? x with
    | fuel + 1, some ⟨some (.text target), _, _, _, _, true, _⟩ =>
        if target.isEmpty then x else follow fuel target
    | _, _ => x

def put (v : Variables) (x : Octets) (entry : Variable) : Variables :=
  if (v.find? x).isSome then
    { v with entries := v.entries.map fun e => if e.1 = x then (x, entry) else e }
  else { v with entries := v.entries ++ [(x, entry)] }

def update (v : Variables) (x : Octets) (f : Variable → Variable) : Variables :=
  v.put x (f ((v.find? x).getD .blank))

def remove (v : Variables) (x : Octets) : Variables :=
  { v with entries := v.entries.filter (·.1 != x) }

def shaped (entry : Variable) (s : Octets) : Octets :=
  match entry.casing with
  | some .upper => s.map Char.toUpper
  | some .lower => s.map Char.toLower
  | none => s

def keptNames : List String :=
  ["LINENO", "RANDOM", "SECONDS", "BASHPID", "BASH_SUBSHELL", "BASH_COMMAND", "EPOCHSECONDS",
    "EPOCHREALTIME", "SRANDOM", "DIRSTACK"]

def isKept (v : Variables) (x : Octets) : Bool :=
  v.isExtended && keptNames.any (·.toList = x) && !v.given.contains x

def leadingNumber (s : Octets) : Nat :=
  (s.takeWhile Char.isDigit).foldl (fun n d => 10 * n + (d.toNat - '0'.toNat)) 0

/-- Gives a variable that the shell keeps a new beginning, if it has one. -/
def restart (v : Variables) (x s : Octets) : Variables :=
  if x = "SECONDS".toList then
    { v with ahead := (leadingNumber s : Int) - (v.clock / 1000000 : Nat) }
  else if x = "RANDOM".toList then { v with seed := leadingNumber s % 4294967296, random := 0 }
  else v

/-- Gives a variable a text; an array takes it at number zero. -/
def set (v : Variables) (x s : Octets) : Variables :=
  let x := v.resolve x
  if v.isKept x then v.restart x s
  else v.update x fun old =>
    let s := shaped old s
    let value : Value := match old.value with
      | some (.indexed items) => .indexed (Value.putAt items 0 s)
      | some (.keyed items) => .keyed ((['0'], s) :: items.filter (·.1 != ['0']))
      | _ => .text s
    { old with value := some value, exported := old.exported || v.has 'a', isBlank := false }

def setValue (v : Variables) (x : Octets) (value : Value) : Variables :=
  v.update (v.resolve x) fun old => { old with value := some value, isBlank := false }

/-- Gives an item of an array a text.  A key is a number where the array has no names. -/
def setItem (v : Variables) (x : Octets) (key : Octets ⊕ Int) (s : Octets) : Option Variables :=
  let x := v.resolve x
  let old := (v.find? x).getD .blank
  let s := shaped old s
  let value? : Option Value := match old.value, key with
    | some (.keyed items), .inl k => some (.keyed ((k, s) :: items.filter (·.1 != k)))
    | some (.keyed items), .inr n =>
        let k := (toString n).toList
        some (.keyed ((k, s) :: items.filter (·.1 != k)))
    | some (.indexed items), .inr n =>
        (Value.place? items n).map fun n => .indexed (Value.putAt items n s)
    | some (.text t), .inr n =>
        (Value.place? [(0, t)] n).map fun n => .indexed (Value.putAt [(0, t)] n s)
    | none, .inr n => (Value.place? [] n).map fun n => .indexed [(n, s)]
    | _, .inl _ => none
  value?.map fun value => v.put x { old with value := some value, isBlank := false }

def unset (v : Variables) (x : Octets) : Variables :=
  let x := v.resolve x
  let v := v.remove x
  if v.isKept x then { v with given := x :: v.given } else v

def markExported (v : Variables) (x : Octets) : Variables :=
  v.update (v.resolve x) fun old => { old with exported := true }

def isReadOnly (v : Variables) (x : Octets) : Bool :=
  (v.find? (v.resolve x)).any Variable.readOnly

/-- The place of a name among those that a shell hands on, which come in this order. -/
def bucket (x : Octets) : Nat :=
  x.foldl (fun n c => n + c.toNat) ((x.head?.map Char.toNat).getD 0 * 16) % 39

def environment (v : Variables) (assigned : List Octets) : List (Octets × Octets) :=
  let given := v.entries.filterMap fun (x, entry) =>
    if !entry.exported then none
    else match entry.value with
      | some (.text s) => some (x, s)
      | _ => none
  if v.isExtended then
    let ordered (size : Nat) (l : List (Octets × Octets)) : List (Octets × Octets) :=
      l.reverse.mergeSort fun a b => Value.hash a.1 % size ≤ Value.hash b.1 % size
    let own := assigned.eraseDups.filterMap fun x => (given.lookup x).map fun s => (x, s)
    ordered 4 own ++ ordered 1024 (given.filter fun (x, _) => !assigned.contains x)
  else given.mergeSort fun a b => bucket a.1 ≤ bucket b.1

/-- The number from which the next random one is made: 16807 times the one before, modulo the prime
that is one less than a power of two. -/
def nextSeed (seed : Nat) : Nat :=
  let n : Int := if seed = 0 then 123459876 else seed
  let next := 16807 * (n % 127773) - 2836 * (n / 127773)
  (if next < 0 then next + 2147483647 else next).toNat

def draw (v : Variables) : Variables :=
  go 4 v.seed
where
  go (fuel seed : Nat) : Variables :=
    let seed := nextSeed seed
    let n := ((seed >>> 16) ^^^ (seed % 65536)) % 32768
    match fuel with
    | 0 => { v with seed, random := n }
    | fuel + 1 => if n = v.random then go fuel seed else { v with seed, random := n }

/-- A random number has been drawn for a variable, where it is the one that holds them. -/
def drawnFor (v : Variables) (x : Octets) : Variables :=
  if x = "RANDOM".toList && v.isKept x then v.draw else v

def kept? (v : Variables) (x : Octets) : Option Octets :=
  if x = "LINENO".toList then some (Octets.ofNat v.line)
  else if x = "RANDOM".toList then some (Octets.ofNat v.draw.random)
  else if x = "SRANDOM".toList then some (Octets.ofNat (nextSeed (v.seed + v.line + 1)))
  else if x = "SECONDS".toList then some (toString ((v.clock / 1000000 : Nat) + v.ahead)).toList
  else if x = "EPOCHSECONDS".toList then some (Octets.ofNat (v.clock / 1000000))
  else if x = "EPOCHREALTIME".toList then
    let digits := Octets.ofNat (v.clock % 1000000)
    some (Octets.ofNat (v.clock / 1000000) ++ '.' :: List.replicate (6 - digits.length) '0' ++ digits)
  else if x = "BASHPID".toList then some (Octets.ofNat v.ownId)
  else if x = "BASH_SUBSHELL".toList then some (Octets.ofNat v.copies)
  else if x = "BASH_COMMAND".toList then some (Layout.oneLine v.command.written)
  else none

def lookup? (v : Variables) (x : Octets) : Option Value :=
  let x := v.resolve x
  if v.isKept x then
    if x = "DIRSTACK".toList then
      some (.ofList ((((v.find? "PWD".toList).bind Variable.value).bind Value.main?).getD [] ::
        v.aside))
    else (v.kept? x).map .text
  else match (v.find? x).bind Variable.value with
    | some value => some value
    | none =>
        if v.isExtended && x = "PIPESTATUS".toList then some (.text (Octets.ofNat v.status))
        else none

def value? (v : Variables) (x : Octets) : Option Octets := (v.lookup? x).bind Value.main?

def separators (v : Variables) : Octets := (v.value? "IFS".toList).getD " \t\n".toList

def optionLetters (v : Variables) : Octets :=
  if v.isExtended then "abefhikmnprtuvxBCEHPTcs".toList.filter v.options.contains
  else "ubaCEVvxsnmiIfe".toList.filter v.options.contains

def parameter? (v : Variables) (x : Octets) : Option Octets :=
  match x with
  | ['#'] => some (Octets.ofNat v.args.length)
  | ['?'] => some (Octets.ofNat v.status)
  | ['$'] => some (Octets.ofNat v.processId)
  | ['!'] => v.lastBackground.map Octets.ofNat
  | ['-'] => some v.optionLetters
  | c :: _ =>
      if c.isDigit then
        match x.foldl (fun n d => 10 * n + (d.toNat - '0'.toNat)) 0 with
        | 0 => some v.name
        | n + 1 => v.args[n]?
      else v.value? x
  | [] => none

end Variables

end Shell

end Conformance
