import Conformance.Computer.Shell.Variables

/-!
# Shell arithmetic

Expressions over signed 64-bit numbers.  A name stands for the number that the variable's value
spells, and an assignment changes the variable.  In the extended dialect the value may itself be an
expression, and there are items of arrays, powers and counting operators.
-/

namespace Conformance

namespace Shell

namespace Arithmetic

inductive Operator where
  | add | sub | mul | div | rem | power
  | shiftLeft | shiftRight
  | less | lessEqual | greater | greaterEqual | equal | notEqual
  | bitAnd | bitXor | bitOr
  | and | or
  deriving DecidableEq, Repr

inductive Sign where
  | plus | minus | not | complement
  deriving DecidableEq, Repr

/-- A variable, or an item of an array with the text of its index. -/
structure Target where
  name : Octets
  index : Option Octets
  deriving DecidableEq, Repr

inductive Expression where
  | number (n : Int)
  | name (x : Target)
  | apply (op : Sign) (e : Expression)
  /-- Two operands; the text from the second one on goes with them for messages. -/
  | binary (op : Operator) (a b : Expression) (token : Octets)
  | choose (condition yes no : Expression)
  | assign (x : Target) (op : Option Operator) (e : Expression)
  | count (x : Target) (step : Int) (before : Bool)
  | chain (a b : Expression)
  deriving Repr

def wrap (n : Int) : Int := Int.bmod n (2 ^ 64)

def clamp (n : Int) : Int := max (-2 ^ 63) (min (2 ^ 63 - 1) n)

/-- The operators that stand between operands, longest spelling first, with how tightly they
bind. -/
def operators (extended : Bool) : List (String × Operator × Nat) :=
  (if extended then [("**", .power, 11)] else []) ++
  ([("<<", .shiftLeft, 8), (">>", .shiftRight, 8), ("<=", .lessEqual, 7), (">=", .greaterEqual, 7),
    ("==", .equal, 6), ("!=", .notEqual, 6), ("&&", .and, 2), ("||", .or, 1), ("<", .less, 7),
    (">", .greater, 7), ("+", .add, 9), ("-", .sub, 9), ("*", .mul, 10), ("/", .div, 10),
    ("%", .rem, 10), ("&", .bitAnd, 5), ("^", .bitXor, 4), ("|", .bitOr, 3)] :
    List (String × Operator × Nat))

def assignments : List (String × Option Operator) :=
  [("<<=", some .shiftLeft), (">>=", some .shiftRight), ("+=", some .add), ("-=", some .sub),
    ("*=", some .mul), ("/=", some .div), ("%=", some .rem), ("&=", some .bitAnd),
    ("^=", some .bitXor), ("|=", some .bitOr), ("=", none)]

def isSpace (c : Char) : Bool := c == ' ' || c == '\t' || c == '\n' || c == '\r'

inductive Flaw where
  | noOperand
  | leftover
  | badOperator
  | noVariable
  | unclosed
  | noColon
  | noBranch
  | badDigit
  | badNumber
  | badIndex
  | divisionByZero
  | negativePower
  | tooDeep
  deriving DecidableEq, Repr

def Flaw.plainText : Flaw → String
  | leftover | badOperator | noVariable => "expecting EOF"
  | unclosed => "expecting ')'"
  | noColon => "expecting ':'"
  | divisionByZero => "division by zero"
  | _ => "expecting primary"

def Flaw.extendedText : Flaw → String
  | noOperand => "syntax error: operand expected"
  | leftover => "syntax error in expression"
  | badOperator => "syntax error: invalid arithmetic operator"
  | noVariable => "attempted assignment to non-variable"
  | unclosed => "missing `)'"
  | noColon => "`:' expected for conditional expression"
  | noBranch => "expression expected"
  | badDigit => "value too great for base"
  | badNumber => "invalid number"
  | badIndex => "bad array subscript"
  | divisionByZero => "division by 0"
  | negativePower => "exponent less than 0"
  | tooDeep => "expression recursion level exceeded"

/-- The text that is left, and the text from the last word on that was read. -/
structure Progress where
  text : Octets
  last : Octets

/-- A reader knows whether the extended dialect is read.  A flaw comes with the text from the word on
at which it shows. -/
abbrev Reader := StateT Progress (ReaderT Bool (Except (Flaw × Octets)))

namespace Reader

def spaces : Reader Unit := modify fun p => { p with text := p.text.dropWhile isSpace }

def rest : Reader Octets := do return (← get).text

def jump (remainder : Octets) : Reader Unit := modify fun p => ⟨remainder, p.text⟩

/-- Complains about what comes next; at the end, about the last word. -/
def fail {α : Type} (flaw : Flaw) : Reader α := do
  let p ← get
  let here := p.text.dropWhile isSpace
  throw (flaw, if here.isEmpty then p.last else here)

end Reader

def isNameStart (c : Char) : Bool := c.isAlpha || c == '_'

def digitValue (c : Char) : Nat :=
  if c.isDigit then c.toNat - '0'.toNat
  else if 'a' ≤ c ∧ c ≤ 'z' then c.toNat - 'a'.toNat + 10
  else if 'A' ≤ c ∧ c ≤ 'Z' then c.toNat - 'A'.toNat + 10
  else 99

/-- The value of a digit in a base of up to 64, where beyond 36 the case of letters counts. -/
def wideDigitValue (base : Nat) (c : Char) : Nat :=
  if base ≤ 36 then digitValue c
  else if c.isDigit then c.toNat - '0'.toNat
  else if 'a' ≤ c ∧ c ≤ 'z' then c.toNat - 'a'.toNat + 10
  else if 'A' ≤ c ∧ c ≤ 'Z' then c.toNat - 'A'.toNat + 36
  else if c == '@' then 62
  else if c == '_' then 63
  else 99

def valueIn (base : Nat) (digits : Octets) : Int :=
  (digits.foldl (fun n c => base * n + wideDigitValue base c) 0 : Nat)

/-- The base of the number at the front of a text, and how long its mark is: octal behind a zero,
or hexadecimal. -/
def baseOf (s : Octets) : Nat × Nat :=
  match s with
  | '0' :: x :: d :: _ =>
      if (x == 'x' || x == 'X') && digitValue d < 16 then (16, 2) else (8, 1)
  | '0' :: _ :: _ => (8, 1)
  | _ => (10, 0)

/-- Reads the longest number at the front of a text.  One that is too large counts as the largest
there is. -/
def readPlainNumber (s : Octets) : Option (Int × Octets) :=
  match s with
  | [] => none
  | c :: _ =>
      if !c.isDigit then none
      else
        let (base, mark) := baseOf s
        let digits := (s.drop mark).takeWhile fun c => digitValue c < base
        some (clamp (valueIn base digits), s.drop (mark + digits.length))

def readWideNumber (s : Octets) : Option (Int × Octets) :=
  let word := s.takeWhile fun c => c.isAlphanum || c == '#' || c == '@' || c == '_'
  let rest := s.drop word.length
  let checked (base : Nat) (digits : Octets) : Option (Int × Octets) :=
    if digits.any fun c => wideDigitValue base c ≥ base then none
    else some (wrap (valueIn base digits), rest)
  let front := word.takeWhile (· != '#')
  match word.drop front.length with
  | _ :: digits =>
      let base := (valueIn 10 front).toNat
      if front.all Char.isDigit && front.head? != some '0' && 2 ≤ base && base ≤ 64 && !digits.isEmpty then
        checked base digits
      else none
  | [] =>
      match word with
      | '0' :: 'x' :: digits | '0' :: 'X' :: digits => checked 16 digits
      | '0' :: digits => checked 8 digits
      | digits => checked 10 digits

def assignmentAt (s : Octets) : Option (Option Operator × Nat) :=
  assignments.findSome? fun (text, op) =>
    let t := text.toList
    if t.isPrefixOf s && !(text == "=" && s.take 2 == ['=', '=']) then some (op, t.length) else none

def operatorAt (extended : Bool) (s : Octets) : Option (Operator × Nat × Nat) :=
  (operators extended).findSome? fun (text, op, strength) =>
    if text.toList.isPrefixOf s then some (op, strength, text.length) else none

def upToBracket (depth : Nat) (taken : Octets) : Octets → Option (Octets × Octets)
  | [] => none
  | '[' :: rest => upToBracket (depth + 1) ('[' :: taken) rest
  | ']' :: rest =>
      match depth with
      | 0 => some (taken.reverse, rest)
      | depth + 1 => upToBracket depth (']' :: taken) rest
  | c :: rest => upToBracket depth (c :: taken) rest

def readTarget : Reader Target := do
  let s ← Reader.rest
  let name := s.takeWhile fun c => isNameStart c || c.isDigit
  let after := s.drop name.length
  match (← read), after with
  | true, '[' :: inner =>
      match upToBracket 0 [] inner with
      | some (index, rest) => do
          Reader.jump rest
          return ⟨name, some index⟩
      | none => Reader.fail .badIndex
  | _, _ => do
      Reader.jump after
      return ⟨name, none⟩

def countingAt (s : Octets) : Option Int :=
  match s with
  | '+' :: '+' :: _ => some 1
  | '-' :: '-' :: _ => some (-1)
  | _ => none

def countsNext (s : Octets) : Bool :=
  (countingAt s).isSome && ((s.drop 2).dropWhile isSpace).head?.any isNameStart

mutual

def readAssignment (fuel : Nat) : Reader Expression := do
  match fuel with
  | 0 => Reader.fail .tooDeep
  | fuel + 1 =>
    Reader.spaces
    let start ← get
    if start.text.head?.any isNameStart then
      let x ← readTarget
      Reader.spaces
      let s ← Reader.rest
      match assignmentAt s with
      | some (op, size) => do
          Reader.jump (s.drop size)
          return .assign x op (← readAssignment fuel)
      | none => set start
    let e ← readChoice fuel
    Reader.spaces
    if (← read) && (assignmentAt (← Reader.rest)).isSome then Reader.fail .noVariable
    return e

/-- Reads operands and what stands between them, and the branches of a choice behind them. -/
def readChoice (fuel : Nat) : Reader Expression := do
  match fuel with
  | 0 => Reader.fail .tooDeep
  | fuel + 1 =>
    let first ← readOperand fuel
    let e ← readRest fuel 1 first
    Reader.spaces
    match ← Reader.rest with
    | '?' :: rest => do
        Reader.jump rest
        let extended ← read
        Reader.spaces
        let s ← Reader.rest
        if extended && (s.isEmpty || s.head? == some ':') then Reader.fail .noBranch
        let yes ← if extended then readChain fuel else readAssignment fuel
        Reader.spaces
        match ← Reader.rest with
        | ':' :: rest => do
            Reader.jump rest
            Reader.spaces
            if extended && (← Reader.rest).isEmpty then Reader.fail .noBranch
            return .choose e yes (← readChoice fuel)
        | _ => Reader.fail .noColon
    | _ => return e

/-- Goes on behind an operand with operators that bind at least as tightly as `least`. -/
def readRest (fuel least : Nat) (left : Expression) : Reader Expression := do
  match fuel with
  | 0 => Reader.fail .tooDeep
  | fuel + 1 =>
    Reader.spaces
    let s ← Reader.rest
    match operatorAt (← read) s with
    | none => return left
    | some (op, strength, size) =>
        if strength < least ∨ (assignmentAt s).isSome ∨ (← read) && countsNext s then return left
        else do
          Reader.jump (s.drop size)
          let first ← readOperand fuel
          -- Powers are taken from the right, all else from the left.
          let right ← readRest fuel (if op = .power then strength else strength + 1) first
          readRest fuel least (.binary op left right ((s.drop size).dropWhile isSpace))

def readOperand (fuel : Nat) : Reader Expression := do
  match fuel with
  | 0 => Reader.fail .tooDeep
  | fuel + 1 =>
    Reader.spaces
    let s ← Reader.rest
    let extended ← read
    let signed (op : Sign) (rest : Octets) : Reader Expression := do
      Reader.jump rest
      return .apply op (← readOperand fuel)
    match s with
    | [] => Reader.fail .noOperand
    | '(' :: rest => do
        Reader.jump rest
        let e ← readChain fuel
        Reader.spaces
        match ← Reader.rest with
        | ')' :: rest => do
            Reader.jump rest
            return e
        | _ => Reader.fail .unclosed
    | '!' :: rest => signed .not rest
    | '~' :: rest => signed .complement rest
    | c :: rest =>
        match (if extended then countingAt s else none) with
        | some step =>
            if countsNext s then do
              Reader.jump ((s.drop 2).dropWhile isSpace)
              let x ← readTarget
              Reader.spaces
              if (countingAt (← Reader.rest)).isSome then Reader.fail .noVariable
              return .count x step false
            else signed (if c == '-' then .minus else .plus) rest
        | none =>
          if c == '-' then signed .minus rest
          else if c == '+' then signed .plus rest
          else if c.isDigit then
            match (if extended then readWideNumber s else readPlainNumber s) with
            | some (n, rest) => do
                Reader.jump rest
                return .number n
            | none => Reader.fail .badDigit
          else if isNameStart c then do
            let x ← readTarget
            Reader.spaces
            let s ← Reader.rest
            match (if extended then countingAt s else none) with
            | some step => do
                Reader.jump (s.drop 2)
                return .count x step true
            | none => return .name x
          else Reader.fail .noOperand

def readChain (fuel : Nat) : Reader Expression := do
  match fuel with
  | 0 => Reader.fail .tooDeep
  | fuel + 1 =>
    let first ← readAssignment fuel
    Reader.spaces
    match (← Reader.rest), (← read) with
    | ',' :: rest, true => do
        Reader.jump rest
        return .chain first (← readChain fuel)
    | _, _ => return first

end

def leftoverFlaw (s : Octets) : Flaw :=
  if (assignmentAt s).isSome then .noVariable
  else match s with
    | c :: _ =>
        if c.isAlphanum || "_=><+-*/%!()~^|&?:,".toList.contains c then .leftover else .badOperator
    | [] => .leftover

/-- Reads a whole text as an expression; in the extended dialect nothing at all is zero. -/
def parse (extended : Bool) (s : Octets) : Except (Flaw × Octets) Expression := do
  if extended && s.all isSpace then return .number 0
  let (e, p) ← ((readChain (4 * s.length + 8)).run ⟨s, s⟩).run extended
  let rest := p.text.dropWhile isSpace
  if rest.isEmpty then return e else throw (leftoverFlaw rest, rest)

/-! ## Evaluation -/

/-- Why an expression has no value. -/
inductive Failure where
  | broken (flaw : Flaw) (token : Octets) (within : Option Octets)
  | badNumber (s : Octets)
  | readOnly (x : Octets)
  | missing (x : Octets)
  deriving DecidableEq, Repr

def Failure.message (extended : Bool) (whole : Octets) : Failure → Octets
  | broken flaw token within =>
      if extended then (within.getD whole).dropWhile isSpace ++ ": ".toList ++
        flaw.extendedText.toList ++ " (error token is \"".toList ++ token ++ "\")".toList
      else "arithmetic expression: ".toList ++ flaw.plainText.toList ++ ": \"".toList ++ whole ++ ['"']
  | badNumber s => "Illegal number: ".toList ++ s
  | readOnly x => x ++ (if extended then ": readonly variable" else ": is read only").toList
  | missing x => x ++ (if extended then ": unbound variable" else ": parameter not set").toList

abbrev Eval := StateT Variables (Except Failure)

def truth (b : Bool) : Int := if b then 1 else 0

def bits (n : Int) : Nat := (n % 2 ^ 64).toNat

def compute (op : Operator) (a b : Int) : Except Flaw Int :=
  match op with
  | .add => .ok (wrap (a + b))
  | .sub => .ok (wrap (a - b))
  | .mul => .ok (wrap (a * b))
  | .div => if b = 0 then .error .divisionByZero else .ok (wrap (Int.tdiv a b))
  | .rem => if b = 0 then .error .divisionByZero else .ok (wrap (Int.tmod a b))
  | .power =>
      if b < 0 then .error .negativePower
      else .ok (Int.bmod (powerMod a b.toNat) (2 ^ 64))
  | .shiftLeft => .ok (wrap (a * 2 ^ (bits b % 64)))
  | .shiftRight => .ok (Int.fdiv a (2 ^ (bits b % 64)))
  | .less => .ok (truth (a < b))
  | .lessEqual => .ok (truth (a ≤ b))
  | .greater => .ok (truth (a > b))
  | .greaterEqual => .ok (truth (a ≥ b))
  | .equal => .ok (truth (a = b))
  | .notEqual => .ok (truth (a ≠ b))
  | .bitAnd => .ok (wrap (bits a &&& bits b : Nat))
  | .bitXor => .ok (wrap (bits a ^^^ bits b : Nat))
  | .bitOr => .ok (wrap (bits a ||| bits b : Nat))
  | .and => .ok (truth (a ≠ 0 && b ≠ 0))
  | .or => .ok (truth (a ≠ 0 || b ≠ 0))
where
  powerMod (a : Int) (n : Nat) : Int :=
    if _h : n = 0 then 1
    else
      let half := powerMod (wrap (a * a)) (n / 2)
      if n % 2 = 0 then half else wrap (a * half)
  termination_by n
  decreasing_by omega

/-- The outcome of an operator whose second operand stands at the front of a text. -/
def computed (op : Operator) (a b : Int) (token : Octets) : Eval Int := do
  match compute op a b with
  | .ok n => return n
  | .error flaw =>
      -- Of a negative power the word behind the sign is shown.
      let token := if flaw == .negativePower then
          token.dropWhile fun c => c == '-' || isSpace c else token
      throw (.broken flaw token none)

/-- The number that the value of a variable of the plain dialect spells; no value at all is zero. -/
def plainNumber (s : Octets) : Except Failure Int :=
  let t := (s.dropWhile isSpace).reverse.dropWhile isSpace |>.reverse
  let (negative, digits) := match t with
    | '-' :: digits => (true, digits)
    | '+' :: digits => (false, digits)
    | digits => (false, digits)
  let number? : Option Int := match digits with
    | c :: _ =>
        let (base, mark) := baseOf digits
        let digits := digits.drop mark
        if c.isDigit && digits.all fun c => digitValue c < base then some (valueIn base digits)
        else none
    | [] => none
  match number? with
  | some n =>
      let n := if negative then -n else n
      if clamp n = n then .ok n else .error (.badNumber s)
  | none => if t.isEmpty then .ok 0 else .error (.badNumber s)

/-- A variable, or an item of an array by its key or number. -/
structure Spot where
  name : Octets
  key : Option (Octets ⊕ Int)

def Spot.spelled? (v : Variables) (spot : Spot) : Option Octets :=
  match spot.key, v.lookup? spot.name with
  | none, _ => v.value? spot.name
  | some (.inl key), some (.keyed items) => items.lookup key
  | some (.inl _), _ | some (.inr _), some (.keyed _) => none
  | some (.inr n), value? =>
      let items := match value? with
        | some (.indexed items) => items
        | some (.text s) => [(0, s)]
        | _ => []
      (Value.place? items n).bind fun n => items.lookup n

def assignTo (spot : Spot) (n : Int) : Eval Unit := do
  let v ← get
  if v.isReadOnly spot.name then throw (.readOnly spot.name)
  let s : Octets := (toString n).toList
  match spot.key with
  | none => set (v.set spot.name s)
  | some key =>
      match v.setItem spot.name key s with
      | some v => set v
      | none => throw (.broken .badIndex spot.name none)

mutual

def eval (fuel : Nat) (e : Expression) : Eval Int := do
  match fuel with
  | 0 => throw (.broken .tooDeep [] none)
  | fuel + 1 =>
    match e with
    | .number n => return n
    | .name x => do valueAt fuel (← spotOf fuel x)
    | .apply op e => do
        let n ← eval fuel e
        return match op with
          | .plus => n
          | .minus => wrap (-n)
          | .not => truth (n = 0)
          | .complement => -n - 1
    | .binary op a b token => do
        let m ← eval fuel a
        match op with
        | .and => if m = 0 then return 0 else return truth ((← eval fuel b) ≠ 0)
        | .or => if m ≠ 0 then return 1 else return truth ((← eval fuel b) ≠ 0)
        | _ => do
            let n ← eval fuel b
            computed op m n token
    | .choose condition yes no => do
        if (← eval fuel condition) ≠ 0 then eval fuel yes else eval fuel no
    | .assign x none e => do
        let n ← eval fuel e
        assignTo (← spotOf fuel x) n
        return n
    | .assign x (some op) e => do
        let spot ← spotOf fuel x
        let early ← if (← get).isExtended then some <$> valueAt fuel spot else pure none
        let n ← eval fuel e
        let result ← computed op (← early.getDM (valueAt fuel spot)) n []
        assignTo spot result
        return result
    | .count x step before => do
        let spot ← spotOf fuel x
        let n ← valueAt fuel spot
        assignTo spot (wrap (n + step))
        return if before then n else wrap (n + step)
    | .chain a b => do
        let _ ← eval fuel a
        eval fuel b

def evalText (fuel : Nat) (s : Octets) : Eval Int := do
  match fuel with
  | 0 => throw (.broken .tooDeep [] none)
  | fuel + 1 =>
    match parse true s with
    | .ok e => fun v =>
        match (eval fuel e).run v with
        | .error (.broken flaw token none) => .error (.broken flaw token (some s))
        | result => result
    | .error (flaw, token) => throw (.broken flaw token (some s))

def spotOf (fuel : Nat) (x : Target) : Eval Spot := do
  match fuel with
  | 0 => throw (.broken .tooDeep [] none)
  | fuel + 1 =>
    match x.index with
    | none => return ⟨x.name, none⟩
    | some index =>
        match (← get).lookup? x.name with
        | some (.keyed _) => return ⟨x.name, some (.inl index)⟩
        | _ => return ⟨x.name, some (.inr (← evalText fuel index))⟩

def valueAt (fuel : Nat) (spot : Spot) : Eval Int := do
  match fuel with
  | 0 => throw (.broken .tooDeep [] none)
  | fuel + 1 =>
    let v ← get
    set (v.drawnFor spot.name)
    match spot.spelled? v with
    | none =>
        if v.has 'u' && v.isExtended then throw (.missing spot.name) else return 0
    | some s =>
        if v.isExtended then evalText fuel s
        else match plainNumber s with
          | .ok n => return n
          | .error e => throw e

end

/-- How deep expressions nest through the values of variables. -/
def depthLimit : Nat := 2000

def run (v : Variables) (s : Octets) : Except Failure (Int × Variables) :=
  match parse v.isExtended s with
  | .error (flaw, token) => .error (.broken flaw token none)
  | .ok e => (eval (depthLimit + 4 * s.length) e).run v

end Arithmetic

end Shell

end Conformance
