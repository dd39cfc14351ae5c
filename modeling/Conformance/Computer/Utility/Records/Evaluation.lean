import Conformance.Computer.Text.Casing
import Conformance.Computer.Utility.Records.Passage

/-!
# Carrying out programs

The values of expressions and the effects of statements.  Fuel bounds how deep they nest and how
often a loop goes round; a run that needs more does not end.
-/

namespace Conformance

namespace Utility

namespace Records

/-- How the statements behind a statement go on. -/
inductive Flow where
  | goesOn
  | breaks
  | continues
  | returns (v : Value)

/-! ## Arithmetic -/

/-- What is left of a number when another one is taken away as often as possible. -/
def remainder (x y : Float) : Float :=
  match Text.Fraction.ofFloat x, Text.Fraction.ofFloat y with
  | .finite negative m e, .finite _ n f =>
      if n = 0 then 0.0 / 0.0
      else
        let low := min e f
        let a := m * 2 ^ (e - low).toNat
        let b := n * 2 ^ (f - low).toNat
        (Text.Fraction.finite negative (a % b) low).toFloat
  | .finite .., .infinite _ => x
  | _, _ => 0.0 / 0.0

def truncated (x : Float) : Float := if x < 0.0 then x.ceil else x.floor

def operate (op : Operator) (x y : Float) : Float :=
  match op with
  | .add => x + y
  | .subtract => x - y
  | .multiply => x * y
  | .divide => x / y
  | .remainder => remainder x y
  | .power => Float.pow x y

def compareValues (format : Octets) (c : Comparison) (a b : Value) : Bool :=
  match c with
  | .less => Value.holds format true false false a b
  | .atMost => Value.holds format true true false a b
  | .equal => Value.holds format false true false a b
  | .unequal => Value.holds format true false true a b
  | .atLeast => Value.holds format false true true a b
  | .greater => Value.holds format false false true a b

/-! ## Texts -/

def indexOf (fuel n : Nat) (s t : Octets) : Nat :=
  match fuel, s with
  | 0, _ => 0
  | _ + 1, [] => 0
  | fuel + 1, c :: rest =>
      if t.isPrefixOf (c :: rest) then n else indexOf fuel (n + 1) rest t

/-- The part of a text from a place on, of a length if there is one.  A place before the first
character counts as the first one, and the length grows by the number of places before it. -/
def substring (s : Octets) (first : Float) (size? : Option Float) : Octets :=
  let first := wholePart first
  match size? with
  | none => s.drop (first - 1).toNat
  | some size =>
      let size := wholePart size
      let size := if first < 1 then size - first else size
      (s.drop (first - 1).toNat).take size.toNat

/-- A replacement for a matched text: an ampersand stands for that text, and backslashes before one
are halved. -/
def replacement (matched : Octets) (fuel : Nat) (s : Octets) : Octets :=
  match fuel, s with
  | 0, _ | _, [] => []
  | fuel + 1, '&' :: rest => matched ++ replacement matched fuel rest
  | fuel + 1, '\\' :: rest =>
      let run := '\\' :: rest.takeWhile (· == '\\')
      match s.drop run.length with
      | '&' :: after =>
          run.take (run.length / 2) ++
            (if run.length % 2 = 1 then ['&'] else matched) ++ replacement matched fuel after
      | after => run ++ replacement matched fuel after
  | fuel + 1, c :: rest => c :: replacement matched fuel rest

/-- A text with matches replaced from a place on, and how many were; nothing is not replaced right
behind a match.  Fuel bounds the number of matches. -/
def substituted (r : Regex) (everywhere : Bool) (new : Octets) (t : Regex.Subject)
    (fuel first : Nat) (behind? : Option Nat) : Octets × Nat :=
  match fuel with
  | 0 => (t.part first t.size, 0)
  | fuel + 1 =>
    match search r t first with
    | none => (t.part first t.size, 0)
    | some (i, j) =>
        let before := t.part first i
        let onward : Octets × Nat :=
          if i = j then
            if j < t.size then
              let (rest, n) := substituted r everywhere new t fuel (j + 1) none
              (t.part j (j + 1) ++ rest, n)
            else ([], 0)
          else substituted r everywhere new t fuel j (some j)
        if i = j && behind? = some j then
          let (rest, n) := onward
          (before ++ rest, n)
        else
          let replaced := before ++ replacement (t.part i j) (new.length + 1) new
          if everywhere then (replaced ++ onward.1, onward.2 + 1)
          else (replaced ++ t.part j t.size, 1)

/-! ## Functions without places -/

def applyFunction (p : Setting) (f : Builtin) (args : List Value) : Run Value := do
  let st ← get
  let text (n : Nat) : Octets := ((args[n]?).map st.textOf).getD []
  let number (n : Nat) : Float := ((args[n]?).map Value.toNumber).getD 0.0
  match f with
  | .length => return .ofNat (text 0).length
  | .substring => return .text (substring (text 0) (number 1) ((args[2]?).map Value.toNumber))
  | .index =>
      let s := text 0
      return .ofNat (indexOf (s.length + 1) 1 s (text 1))
  | .format =>
      match args with
      | [] => return .text []
      | format :: args =>
          let format := st.textOf format
          let r := formatted (numberText st.numberFormat) (format.length + 1) 1 format args
          match r.fault? with
          | none => return .text r.text
          | some fault => failNow (complaint "sprintf" format fault)
  | .lower => return .text ((text 0).map Char.toLower)
  | .upper => return .text ((text 0).map Char.toUpper)
  | .sine => return .number (number 0).sin
  | .cosine => return .number (number 0).cos
  | .arctangent => return .number (Float.atan2 (number 0) (number 1))
  | .exponential => return .number (number 0).exp
  | .logarithm => return .number (number 0).log
  | .root => return .number (number 0).sqrt
  | .whole => return .number (truncated (number 0))
  | .random => do
      let chance := (st.chance * 25214903917 + 11) % 2 ^ 48
      set { st with chance }
      return .number (Float.ofNat chance / Float.ofNat (2 ^ 48))
  | .seed => do
      let seed := if args.isEmpty then Float.ofNat (p.context.now / 1000000) else number 0
      set { st with seed, chance := seed.toUInt64.toNat * 65536 + 13070 }
      return .number st.seed
  | .system => do
      let ran ← runCommand p "sh" (text 0) false
      return .ofNat (statusNumber ran.status)
  | .close => return .number (Float.ofInt (← closeNamed p (text 0)))
  | .flush => do
      if args.isEmpty then
        flushOutput
        flushFiles p
        return .number 0.0
      return .number (Float.ofInt (← flushNamed p (text 0)))
  | .time => return .ofNat (p.context.now / 1000000)
  | .date =>
      let format := if args.isEmpty then "%c".toList else text 0
      let seconds := if args.length > 1 then wholePart (number 1)
        else ((p.context.now / 1000000 : Nat) : Int)
      return .text (Format.dateText seconds 0 (8 * format.length + 8) format)
  | .split | .replace _ | .locate => return .unset
where
  complaint (function : String) (format : Octets) (fault : FormatFault) : Octets :=
    let place := (function ++ "(\"").toList ++ format ++ "\")".toList
    match fault with
    | .missing => "not enough arguments passed to ".toList ++ place
    | .improper n => "improper conversion(number ".toList ++ Octets.ofNat n ++ ") in ".toList ++ place

def receive (target : Option Spot) (s : Octets) : Run Unit := do
  match target with
  | none => setRecord s
  | some spot => spot.setTo (.ofInput s)

/-! ## Expressions and statements -/

mutual

def eval (p : Setting) (fuel : Nat) (e : Expr) : Run Value := do
  match fuel with
  | 0 => throw .endless
  | fuel + 1 =>
    match e with
    | .number x => return .number x
    | .text s => return .text s
    | .regex r => return .ofBool (isMatch r (← recordText))
    | .grouped e => eval p fuel e
    | .place (.variable name) => variableValue name
    | .place q => do (← spotOf p fuel q).value
    | .assign none q e => do
        let spot ← spotOf p fuel q
        let v ← eval p fuel e
        spot.setTo v
        return v
    | .assign (some op) q e => do
        let spot ← spotOf p fuel q
        let y := (← eval p fuel e).toNumber
        let v := Value.number (operate op (← spot.value).toNumber y)
        spot.setTo v
        return v
    | .step before up q => do
        let spot ← spotOf p fuel q
        let x := (← spot.value).toNumber
        let y := if up then x + 1.0 else x - 1.0
        spot.setTo (.number y)
        return .number (if before then y else x)
    | .choose c a b => do
        if (← eval p fuel c).toBool then eval p fuel a else eval p fuel b
    | .or a b => do
        if (← eval p fuel a).toBool then return .ofBool true
        return .ofBool (← eval p fuel b).toBool
    | .and a b => do
        if !(← eval p fuel a).toBool then return .ofBool false
        return .ofBool (← eval p fuel b).toBool
    | .not e => do return .ofBool !(← eval p fuel e).toBool
    | .negate e => do return .number (-(← eval p fuel e).toNumber)
    | .plus e => do return .number (← eval p fuel e).toNumber
    | .within index table => do
        let key ← keyOf p fuel index
        let id ← tableOf table
        let t ← readTable id
        setTable id (t.seek key false)
        return .ofBool (t.contains key)
    | .agrees negated a b => do
        let s := (← get).textOf (← eval p fuel a)
        let r ← regexFrom p fuel b
        return .ofBool (isMatch r s != negated)
    | .compare c a b => do
        let x ← eval p fuel a
        let y ← eval p fuel b
        return .ofBool (compareValues (← get).numberFormat c x y)
    | .join a b => do
        let x ← eval p fuel a
        let s := (← get).textOf x
        let y ← eval p fuel b
        return .text (s ++ (← get).textOf y)
    | .arithmetic op a b => do
        let x ← eval p fuel a
        let y ← eval p fuel b
        return .number (operate op x.toNumber y.toNumber)
    | .builtin f args => evalBuiltin p fuel f args
    | .call name args => callFunction p fuel name args
    | .read source target => evalRead p fuel source target

def evalList (p : Setting) (fuel : Nat) (es : List Expr) : Run (List Value) := do
  match fuel with
  | 0 => throw .endless
  | fuel + 1 =>
    match es with
    | [] => return []
    | e :: rest => do
        let v ← eval p fuel e
        return v :: (← evalList p fuel rest)

/-- The place that an expression names, with its indices worked out. -/
def spotOf (p : Setting) (fuel : Nat) (q : Place) : Run Spot := do
  match fuel with
  | 0 => throw .endless
  | fuel + 1 =>
    match q with
    | .variable name => return .variable name
    | .field e => do return .field (← fieldNumber (← eval p fuel e))
    | .element table index => do
        let key ← keyOf p fuel index
        return .element (← tableOf table) key

def keyOf (p : Setting) (fuel : Nat) (index : List Expr) : Run Key := do
  match fuel with
  | 0 => throw .endless
  | fuel + 1 =>
    match index with
    | [e] => do
        let v ← eval p fuel e
        return v.toKey (← get).numberFormat
    | es => do
        let vs ← evalList p fuel es
        let st ← get
        return .text (joinWith (st.globalText "SUBSEP") (vs.map st.textOf))

def regexFrom (p : Setting) (fuel : Nat) (e : Expr) : Run Regex := do
  match fuel with
  | 0 => throw .endless
  | fuel + 1 =>
    match e with
    | .regex r => return r
    | e => do
        let v ← eval p fuel e
        compiledRegex ((← get).textOf v)

def evalBuiltin (p : Setting) (fuel : Nat) (f : Builtin) (args : List Expr) : Run Value := do
  match fuel with
  | 0 => throw .endless
  | fuel + 1 =>
    match f, args with
    | .length, [] => return .ofNat (← recordText).length
    | .length, [.place (.variable name)] => do
        let st ← get
        match st.bindingAt (st.depthOf name) name with
        | .table id => return .ofNat (← readTable id).size
        | _ => applyFunction p f [← variableValue name]
    | .split, e :: .place (.variable table) :: rest => do
        let s := (← get).textOf (← eval p fuel e)
        let splitter ← match rest with
          | [] => splitterOf ((← get).globalText "FS")
          | .regex r :: _ => pure (Splitter.matches r)
          | sep :: _ => do
              let v ← eval p fuel sep
              splitterOf ((← get).textOf v)
        let parts := splitter.split s
        setTable (← tableOf table) (.ofList (parts.map Value.ofInput))
        return .ofNat parts.length
    | .replace everywhere, r :: new :: rest => do
        let r ← regexFrom p fuel r
        let v ← eval p fuel new
        let new := (← get).textOf v
        let spot ← match rest with
          | .place q :: _ => spotOf p fuel q
          | _ => pure (.field 0)
        let s ← match rest with
          | [] => recordText
          | .place _ :: _ => do
              let v ← spot.value
              pure ((← get).textOf v)
          | e :: _ => do
              let v ← eval p fuel e
              pure ((← get).textOf v)
        let t := subjectOf s
        let (text, n) := substituted r everywhere new t (t.size + 2) 0 none
        let isPlace := match rest with
          | [] | .place _ :: _ => true
          | _ => false
        if n > 0 && isPlace then spot.setTo (.text text)
        return .ofNat n
    | .locate, [e, r] => do
        let v ← eval p fuel e
        let s := (← get).textOf v
        let r ← regexFrom p fuel r
        let (start, size) : Nat × Float := match search r (subjectOf s) 0 with
          | some (i, j) => (i + 1, Float.ofNat (j - i))
          | none => (0, -1.0)
        modify fun st =>
          (st.setGlobal "RSTART" (.ofNat start)).setGlobal "RLENGTH" (.number size)
        return .ofNat start
    | f, args => do applyFunction p f (← evalList p fuel args)

/-- Calls a function of the program.  Arrays are handed over as they are, and so are names that have
not been used. -/
def callFunction (p : Setting) (fuel : Nat) (name : Octets) (args : List Expr) : Run Value := do
  match fuel with
  | 0 => throw .endless
  | fuel + 1 =>
    match p.functions.find? fun f => f.name = name with
    | none => fail ("function ".toList ++ name ++ " never defined".toList)
    | some f => do
        if args.length > f.parameters.length then
          fail ("too many arguments in call to ".toList ++ name)
        let values ← evalArguments p fuel args
        let spare := List.replicate (f.parameters.length - args.length) (Binding.unused none)
        modify fun st => { st with frames := st.frames.push (f.parameters.zip (values ++ spare)) }
        let flow ← exec p fuel f.body
        modify fun st => { st with frames := st.frames.pop }
        match flow with
        | .returns v => return v
        | _ => return .unset

def evalArguments (p : Setting) (fuel : Nat) (args : List Expr) : Run (List Binding) := do
  match fuel with
  | 0 => throw .endless
  | fuel + 1 =>
    match args with
    | [] => return []
    | .place (.variable name) :: rest => do
        let st ← get
        let depth := st.depthOf name
        let b ← if isFieldCount st name then do pure (.value (← variableValue name))
          else match st.bindingAt depth name with
            | .unused _ => pure (.unused (some (depth, name)))
            | b => pure b
        return b :: (← evalArguments p fuel rest)
    | e :: rest => do
        let v ← eval p fuel e
        return .value v :: (← evalArguments p fuel rest)

/-- Reads a record: the value is one if there is a further one, zero if there is none, and less if
it cannot be read. -/
def evalRead (p : Setting) (fuel : Nat) (source : Source) (target : Option Place) : Run Value := do
  match fuel with
  | 0 => throw .endless
  | fuel + 1 =>
    match source with
    | .input => do
        let spot? ← spotOf? p fuel target
        match ← nextRecord p (← fileLimit) with
        | some s => do
            receive spot? s
            return .number 1.0
        | none => return .number 0.0
    | .file e => readFrom p fuel e false target
    | .command e => readFrom p fuel e true target

def spotOf? (p : Setting) (fuel : Nat) (target : Option Place) : Run (Option Spot) := do
  match fuel with
  | 0 => throw .endless
  | fuel + 1 =>
    match target with
    | none => return none
    | some q => return some (← spotOf p fuel q)

def readFrom (p : Setting) (fuel : Nat) (e : Expr) (isCommand : Bool) (target : Option Place) :
    Run Value := do
  match fuel with
  | 0 => throw .endless
  | fuel + 1 =>
    let v ← eval p fuel e
    let spot? ← spotOf? p fuel target
    match ← readInlet p ((← get).textOf v) isCommand with
    | some (some s) => do
        receive spot? s
        return .number 1.0
    | some none => return .number 0.0
    | none => return .number (-1.0)

/-- Puts text where the output of a statement goes. -/
def deliver (p : Setting) (fuel : Nat) (target : Target) (s : Octets) : Run Unit := do
  match fuel with
  | 0 => throw .endless
  | fuel + 1 =>
    match target with
    | .output => printOut s
    | .file appends e => do
        let v ← eval p fuel e
        printTo p ((← get).textOf v) false appends s
    | .command e => do
        let v ← eval p fuel e
        printTo p ((← get).textOf v) true false s

def exec (p : Setting) (fuel : Nat) (s : Statement) : Run Flow := do
  match fuel with
  | 0 => throw .endless
  | fuel + 1 =>
    match s with
    | .expression e => do
        let _ ← eval p fuel e
        return .goesOn
    | .print args target => do
        let vs ← evalList p fuel args
        let text ← if args.isEmpty then recordText else do
          let st ← get
          let format := match st.global "OFMT" with
            | .text s | .numeral s _ => s
            | _ => "%.6g".toList
          pure (joinWith (st.globalText "OFS") (vs.map (Value.toText format)))
        deliver p fuel target (text ++ (← get).globalText "ORS")
        return .goesOn
    | .format args target => do
        match ← evalList p fuel args with
        | [] => return .goesOn
        | format :: vs => do
            let st ← get
            let format := st.textOf format
            let r := formatted (numberText st.numberFormat) (format.length + 1) 1 format vs
            deliver p fuel target r.text
            match r.fault? with
            | none => return .goesOn
            | some fault => failNow (applyFunction.complaint "printf" format fault)
    | .block body => execList p fuel body
    | .choice c yes no => do
        if (← eval p fuel c).toBool then exec p fuel yes else exec p fuel no
    | .loop c after body => loopWhile p fuel c after body
    | .again body c => loopAgain p fuel body c
    | .each name table body => do
        let id ← tableOf table
        let (keys, t) := (← readTable id).keys
        setTable id t
        loopEach p fuel name body keys
    | .delete table none => do
        setTable (← tableOf table) .empty
        return .goesOn
    | .delete table (some index) => do
        let key ← keyOf p fuel index
        let id ← tableOf table
        setTable id ((← readTable id).erase key)
        return .goesOn
    | .next => throw .next
    | .nextFile => throw .nextFile
    | .exit e? => do
        match e? with
        | some e => do
            let n := wholePart (← eval p fuel e).toNumber
            modify fun st => { st with status := (n % 256).toNat }
        | none => pure ()
        throw .exits
    | .break => return .breaks
    | .continue => return .continues
    | .return none => return .returns .unset
    | .return (some e) => do return .returns (← eval p fuel e)

def execList (p : Setting) (fuel : Nat) (body : List Statement) : Run Flow := do
  match fuel with
  | 0 => throw .endless
  | fuel + 1 =>
    match body with
    | [] => return .goesOn
    | s :: rest => do
        match ← exec p fuel s with
        | .goesOn => execList p fuel rest
        | flow => return flow

def loopWhile (p : Setting) (fuel : Nat) (c : Option Expr) (after body : Statement) :
    Run Flow := do
  match fuel with
  | 0 => throw .endless
  | fuel + 1 =>
    let holds ← match c with
      | none => pure true
      | some c => do pure (← eval p fuel c).toBool
    if !holds then return .goesOn
    match ← exec p fuel body with
    | .breaks => return .goesOn
    | .returns v => return .returns v
    | .goesOn | .continues => do
        let _ ← exec p fuel after
        loopWhile p fuel c after body

def loopAgain (p : Setting) (fuel : Nat) (body : Statement) (c : Expr) : Run Flow := do
  match fuel with
  | 0 => throw .endless
  | fuel + 1 =>
    match ← exec p fuel body with
    | .breaks => return .goesOn
    | .returns v => return .returns v
    | .goesOn | .continues => do
        if (← eval p fuel c).toBool then loopAgain p fuel body c else return .goesOn

def loopEach (p : Setting) (fuel : Nat) (name : Octets) (body : Statement) (keys : List Octets) :
    Run Flow := do
  match fuel with
  | 0 => throw .endless
  | fuel + 1 =>
    match keys with
    | [] => return .goesOn
    | key :: rest => do
        setVariable name (.text key)
        match ← exec p fuel body with
        | .breaks => return .goesOn
        | .returns v => return .returns v
        | .goesOn | .continues => loopEach p fuel name body rest

end

end Records

end Utility

end Conformance
