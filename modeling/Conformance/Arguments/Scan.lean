import Conformance.Arguments.Slot

/-!
# Reading arguments

Arguments are read from left to right.  The text that an option or the position takes as its value
is checked when the next thing begins, so a fault that ends the reading before that hides a bad
value before it.
-/

namespace Conformance

/-- The two forms of argument lists: a run, and the listing of the corpus. -/
inductive Scope where
  | run
  | list
  deriving DecidableEq, Repr

namespace Scope

/-- The slots that arguments in this scope can fill. -/
def admits : Scope → Slot → Bool
  | run, _ => true
  | list, slot => slot = .testsDir || slot = .extension || slot = .verbose

/-- The error for one position more than there is. -/
def extraPosition : Scope → ArgumentError
  | run => .conflict
  | list => .unknownArgument

end Scope

/-- The words that flags stand for. -/
inductive Flag where
  | verbose
  | help
  | version
  deriving DecidableEq, Repr

namespace Flag

/-- Only the run has a version. -/
def isIn : Scope → Flag → Bool
  | .list, version => false
  | _, _ => true

def ofWord? (word : List Char) : Option Flag :=
  if word = "verbose".toList then some verbose
  else if word = "help".toList then some help
  else if word = "version".toList then some version
  else none

def ofLetter? : Char → Option Flag
  | 'v' => some verbose
  | 'h' => some help
  | 'V' => some version
  | _ => none

end Flag

/-- How far the reading has come: the slots filled so far, the slot whose value has begun and is not
checked yet (without a text where the value is still to come), and whether `--` has been read. -/
structure Scan where
  filled : Filled
  pending : Option (Slot × Option String)
  positionsOnly : Bool
  deriving DecidableEq, Repr

namespace Scan

def start : Scan := ⟨[], none, false⟩

/-- Checks the value that has begun. -/
def settle (s : Scan) : Except ArgumentError Scan :=
  match s.pending with
  | none => .ok s
  | some (_, none) => .error .invalidValue
  | some (slot, some text) => do
      let filled ← s.filled.fill slot text
      return { s with filled, pending := none }

/-- Fills a slot with a text that is complete. -/
def fill (s : Scan) (slot : Slot) (text : String) : Except ArgumentError Scan := do
  let s ← s.settle
  let filled ← s.filled.fill slot text
  return { s with filled }

def raise (s : Scan) : Flag → Except ArgumentError Scan
  | .verbose => s.fill .verbose ""
  | .help => do let _ ← s.settle; throw .helpAsked
  | .version => do let _ ← s.settle; throw .versionAsked

/-- Reads letters that stand for flags. -/
def letters (scope : Scope) (s : Scan) : List Char → Except ArgumentError Scan
  | [] => .ok s
  | c :: rest =>
      match (Flag.ofLetter? c).filter (Flag.isIn scope) with
      | none => .error .unknownArgument
      | some flag => do
          let s ← s.raise flag
          letters scope s rest

/-- Splits a word at the first equals sign. -/
def splitEquals (word : List Char) : List Char × Option (List Char) :=
  match word.dropWhile (· != '=') with
  | [] => (word, none)
  | _ :: value => (word.takeWhile (· != '='), some value)

/-- Reads the name of a flag or an option, perhaps with a value attached. -/
def named (scope : Scope) (s : Scan) (word : List Char) : Except ArgumentError Scan :=
  let (name, value?) := splitEquals word
  match (Flag.ofWord? name).filter (Flag.isIn scope), value? with
  | some flag, none => s.raise flag
  | some _, some _ => .error .tooManyValues
  | none, value? =>
      match (Slot.ofOption? name).filter scope.admits, value? with
      | none, _ => .error .unknownArgument
      | some slot, some value => s.fill slot (String.ofList value)
      | some slot, none => do
          let s ← s.settle
          return { s with pending := some (slot, none) }

/-- The position has been filled or is about to be. -/
def hasPosition (s : Scan) : Bool :=
  s.filled.has .testsDir || s.pending.any (·.1 = .testsDir)

def position (scope : Scope) (s : Scan) (text : String) : Except ArgumentError Scan :=
  if s.hasPosition then .error scope.extraPosition
  else do
    let s ← s.settle
    return { s with pending := some (.testsDir, some text) }

/-- Reads a word that begins no option: the value that is still to come, or the position. -/
def plain (scope : Scope) (s : Scan) (text : String) : Except ArgumentError Scan :=
  match s.pending with
  | some (slot, none) => .ok { s with pending := some (slot, some text) }
  | _ => s.position scope text

def read (scope : Scope) (s : Scan) (arg : String) : Except ArgumentError Scan :=
  if s.positionsOnly then s.position scope arg
  else match arg.toList with
    | ['-', '-'] => .ok { s with positionsOnly := true }
    | '-' :: '-' :: word => s.named scope word
    | ['-'] => s.plain scope arg
    | '-' :: flags => s.letters scope flags
    | _ => s.plain scope arg

/-- The slots that an argument list fills. -/
def all (scope : Scope) (args : List String) : Except ArgumentError Filled := do
  let s ← args.foldlM (read scope) start
  let s ← s.settle
  return s.filled

end Scan

end Conformance
