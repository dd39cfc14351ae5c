import Conformance.Computer.Utility.Records.Matching
import Conformance.Computer.Utility.Records.Program
import Conformance.Computer.Utility.Records.Value

/-!
# The state of a program

What a program over records knows while it runs: its variables and arrays, the fields of the record,
the places it reads from and writes to, and what it has printed.
-/

namespace Conformance

namespace Utility

namespace Records

/-- What a name stands for. -/
inductive Binding where
  | value (v : Value)
  | table (id : Nat)
  /-- Nothing has been done with the name yet.  It may be another name for one further out: that at
  a depth of calls. -/
  | unused (origin : Option (Nat × Octets))

/-- A text that is read record by record. -/
structure Stream where
  text : Octets
  goesOn : Bool

/-- A place that output goes to. -/
structure Outlet where
  name : Octets
  isCommand : Bool
  pending : List Octets

/-- A place that records are read from. -/
structure Inlet where
  name : Octets
  isCommand : Bool
  stream : Stream
  status : Nat

/-- Why a run stops. -/
inductive Stop where
  | needsInput
  | gathers (file : Octets)
  | calls (c : Call)
  | endless
  | fatal (message : Octets)
  | exits
  | next
  | nextFile

structure State where
  globals : List (Octets × Binding)
  frames : Array (List (Octets × Binding))
  tables : Array (Table Value)
  record : Octets
  fields : Array (Octets ⊕ Value)
  isStale : Bool
  main : Option Stream
  argument : Nat
  hasOpened : Bool
  inputOpened : Bool
  inlets : List Inlet
  outlets : List Outlet
  /-- What has been printed to standard output and not been passed on, the latest first. -/
  pending : List Octets
  pendingSize : Nat
  prints : Array Print
  tree : FileTree
  calls : Nat
  status : Nat
  active : List Nat
  compiled : List (Octets × Regex)
  seed : Float
  chance : Nat

abbrev Run := ExceptT Stop (StateM State)

/-- What stays the same during a run. -/
structure Setting where
  program : String
  context : Context
  functions : List Function

/-! ## Variables -/

def put {α : Type} (name : Octets) (x : α) : List (Octets × α) → List (Octets × α)
  | [] => [(name, x)]
  | (n, y) :: rest => if n = name then (name, x) :: rest else (n, y) :: put name x rest

namespace State

def depthOf (st : State) (name : Octets) : Nat :=
  match st.frames.back? with
  | some frame => if (frame.lookup name).isSome then st.frames.size else 0
  | none => 0

def bindingAt (st : State) (depth : Nat) (name : Octets) : Binding :=
  let names := if depth = 0 then some st.globals else st.frames[depth - 1]?
  ((names.bind fun l => l.lookup name)).getD (.unused none)

def bind (st : State) (depth : Nat) (name : Octets) (b : Binding) : State :=
  if depth = 0 then { st with globals := put name b st.globals }
  else { st with frames := st.frames.modify (depth - 1) (put name b) }

def global (st : State) (name : String) : Value :=
  match st.globals.lookup name.toList with
  | some (.value v) => v
  | _ => .unset

def numberFormat (st : State) : Octets :=
  match st.global "CONVFMT" with
  | .text s | .numeral s _ => s
  | _ => "%.6g".toList

def textOf (st : State) (v : Value) : Octets :=
  match v with
  | .text s | .numeral s _ => s
  | .unset => []
  | v => v.toText st.numberFormat

def globalText (st : State) (name : String) : Octets := st.textOf (st.global name)

def setGlobal (st : State) (name : String) (v : Value) : State := st.bind 0 name.toList (.value v)

end State

def fail {α : Type} (message : Octets) : Run α := throw (.fatal message)

/-- Complains about what happens while records are read. -/
def failNow {α : Type} (message : Octets) : Run α := do
  let st ← get
  throw (.fatal ("run time error: ".toList ++ message ++ "\n\tFILENAME=\"".toList ++
    st.globalText "FILENAME" ++ "\" FNR=".toList ++ st.globalText "FNR" ++ " NR=".toList ++
    st.globalText "NR"))

/-- The array that a name stands for at a depth; a name without a use becomes one. -/
def tableAt (fuel depth : Nat) (name : Octets) : Run Nat := do
  match fuel with
  | 0 => throw .endless
  | fuel + 1 =>
    match (← get).bindingAt depth name with
    | .table id => return id
    | .value _ => fail ("illegal reference to variable ".toList ++ name)
    | .unused origin => do
        let id ← match origin with
          | some (outer, n) => tableAt fuel outer n
          | none => do
              let st ← get
              set { st with tables := st.tables.push .empty }
              pure st.tables.size
        modify fun st => st.bind depth name (.table id)
        return id

def tableOf (name : Octets) : Run Nat := do
  let st ← get
  tableAt (st.frames.size + 2) (st.depthOf name) name

def readTable (id : Nat) : Run (Table Value) := do return ((← get).tables[id]?).getD .empty

def setTable (id : Nat) (t : Table Value) : Run Unit :=
  modify fun st => { st with tables := st.tables.modify id fun _ => t }

def compiledRegex (s : Octets) : Run Regex := do
  match (← get).compiled.lookup s with
  | some r => return r
  | none =>
      match regexOf s with
      | .ok r => do
          modify fun st => { st with compiled := (s, r) :: st.compiled.take 50 }
          return r
      | .error flaw =>
          failNow (("regular expression compile failed (" ++ flaw.message ++ ")\n").toList ++ s)

/-! ## Fields -/

/-- How a text is cut into fields. -/
inductive Splitter where
  | blanks
  | each
  | at (c : Char)
  | matches (r : Regex)

def splitterOf (s : Octets) : Run Splitter := do
  match s with
  | [] => return .each
  | [c] => return if c == ' ' then .blanks else .at c
  | s => return .matches (← compiledRegex s)

/-- The parts between the matches of an expression, none of which is empty; fuel bounds their
number. -/
def splitMatches (r : Regex) (t : Regex.Subject) (fuel start first : Nat) : List Octets :=
  match fuel with
  | 0 => [t.part start t.size]
  | fuel + 1 =>
      match search r t first with
      | none => [t.part start t.size]
      | some (i, j) =>
          if i = j then
            if i ≥ t.size then [t.part start t.size]
            else splitMatches r t fuel start (i + 1)
          else t.part start i :: splitMatches r t fuel j j

def blankWords (s : Octets) : List Octets :=
  (s.foldr (fun c (words : List Octets) =>
    if c == ' ' || c == '\t' || c == '\n' then [] :: words
    else match words with
      | [] => [[c]]
      | word :: rest => (c :: word) :: rest) [[]]).filter fun w => !w.isEmpty

def Splitter.split (p : Splitter) (s : Octets) : List Octets :=
  match p with
  | .blanks => blankWords s
  | .each => s.map fun c => [c]
  | .at c => if s.isEmpty then [] else splitAt c s
  | .matches .empty => s.map fun c => [c]
  | .matches r =>
      if s.isEmpty then [] else splitMatches r (subjectOf s) (2 * s.length + 2) 0 0

def setRecord (s : Octets) : Run Unit := do
  let splitter ← splitterOf ((← get).globalText "FS")
  modify fun st =>
    { st with
      record := s
      fields := ((splitter.split s).map Sum.inl).toArray
      isStale := false }

def recordText : Run Octets := do
  let st ← get
  if !st.isStale then return st.record
  let texts := st.fields.toList.map fun x => match x with
    | .inl s => s
    | .inr v => st.textOf v
  let record := joinWith (st.globalText "OFS") texts
  set { st with record, isStale := false }
  return record

def fieldAt (n : Nat) : Run Value := do
  if n = 0 then return .ofInput (← recordText)
  match (← get).fields[n - 1]? with
  | some (.inl s) => return .ofInput s
  | some (.inr v) => return v
  | none => return .unset

def setFieldCount (n : Nat) : Run Unit :=
  modify fun st =>
    let fields := if n ≤ st.fields.size then st.fields.take n
      else st.fields ++ Array.replicate (n - st.fields.size) (.inl [])
    { st with fields, isStale := true }

def setField (n : Nat) (v : Value) : Run Unit := do
  if n = 0 then setRecord ((← get).textOf v)
  else
    if n > (← get).fields.size then setFieldCount n
    modify fun st => { st with fields := st.fields.modify (n - 1) fun _ => .inr v, isStale := true }

def fieldNumber (v : Value) : Run Nat := do
  let n := wholePart v.toNumber
  if n < 0 then failNow ("negative field index $".toList ++ (toString n).toList)
  else if n > 1000000 then failNow ("field index ".toList ++ (toString n).toList ++
    " exceeds maximum".toList)
  else return n.toNat

/-! ## Places -/

/-- A place whose indices are known. -/
inductive Spot where
  | variable (name : Octets)
  | field (n : Nat)
  | element (id : Nat) (key : Key)

def isFieldCount (st : State) (name : Octets) : Bool :=
  name = ['N', 'F'] && st.depthOf name = 0

def variableValue (name : Octets) : Run Value := do
  let st ← get
  if isFieldCount st name then return .ofNat st.fields.size
  match st.bindingAt (st.depthOf name) name with
  | .value v => return v
  | .unused _ => return .unset
  | .table _ => fail ("illegal reference to array ".toList ++ name)

def setVariable (name : Octets) (v : Value) : Run Unit := do
  let st ← get
  if isFieldCount st name then setFieldCount (← fieldNumber v)
  else match st.bindingAt (st.depthOf name) name with
    | .table _ => fail ("illegal reference to array ".toList ++ name)
    | _ => set (st.bind (st.depthOf name) name (.value v))

def elementValue (id : Nat) (key : Key) : Run Value := do
  let t ← readTable id
  match t.get? key with
  | some v => do
      setTable id (t.seek key false)
      return v
  | none => do
      setTable id (t.insert key .unset)
      return .unset

def Spot.value : Spot → Run Value
  | .variable name => variableValue name
  | .field n => fieldAt n
  | .element id key => elementValue id key

def Spot.setTo (s : Spot) (v : Value) : Run Unit := do
  match s with
  | .variable name => setVariable name v
  | .field n => setField n v
  | .element id key => setTable id ((← readTable id).insert key v)

end Records

end Utility

end Conformance
