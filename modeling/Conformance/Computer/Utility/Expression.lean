import Conformance.Computer.Text.Regex
import Conformance.Computer.Utility.Basic

/-!
# Expressions in arguments

The program `expr`.  Each argument is an operand or an operator.  An operand that has no influence
on the value is read but not reckoned with.
-/

namespace Conformance

namespace Utility

namespace Expression

/-- The text counts as false: it is empty, or a zero. -/
def isNull (s : Octets) : Bool :=
  match s with
  | [] => true
  | '-' :: digits => !digits.isEmpty && digits.all (· == '0')
  | digits => digits.all (· == '0')

def number? (s : Octets) : Option Int :=
  match s with
  | '-' :: digits => (readNat? digits).map fun n => -(n : Int)
  | digits => (readNat? digits).map fun n => (n : Int)

/-- The arguments that are left, and the one before them. -/
structure Rest where
  args : List Octets
  last : Octets

/-- A reader of operands; with the flag, their values count. -/
abbrev Reader := StateT Rest (Except Octets)

namespace Reader

def fail {α : Type} (message : String) : Reader α := throw message.toList

def next? : Reader (Option Octets) := do return (← get).args.head?

def skip : Reader Unit := modify fun r =>
  ⟨r.args.drop 1, r.args.headD r.last⟩

/-- Takes the next argument if it is one of some words. -/
def take? (words : List String) : Reader (Option String) := do
  match ← next? with
  | none => return none
  | some a =>
      match words.find? fun w => w.toList = a with
      | some w => do
          skip
          return some w
      | none => return none

end Reader

def mark (wide : Bool) (s : Octets) : Octets :=
  if wide then Octets.ofString "‘" ++ s ++ Octets.ofString "’" else '\'' :: s ++ ['\'']

def requireMore (wide : Bool) : Reader Unit := do
  let r ← get
  if r.args.isEmpty then
    throw ("syntax error: missing argument after ".toList ++ mark wide r.last)

/-- What a pattern finds at the front of a text: a length, or what its first group stands for. -/
def matchFront (wide : Bool) (s pattern : Octets) : Reader Octets := do
  let chars (t : Octets) : List Char := if wide then Octets.toWide t else t
  match Regex.parse .basic (chars pattern) with
  | none => throw (Regex.complaint .basic (chars pattern)).toList
  | some r =>
      let subject : Regex.Subject := ⟨(chars s).toArray, .standard⟩
      let hasGroup := r.groupCount > 0
      match Regex.matchAt subject r 0 with
      | none => return if hasGroup then [] else ['0']
      | some (last, groups) =>
          if hasGroup then
            match groups.lookup 1 with
            | some (i, j) =>
                let part := subject.part i j
                return if wide then Octets.ofWide part else part
            | none => return []
          else return Octets.ofNat last

def compute (wide : Bool) (op : String) (a b : Octets) : Reader Octets := do
  let reckon (f : Int → Int → Int) (divides : Bool) : Reader Octets := do
    match number? a, number? b with
    | some m, some n =>
        if divides && n = 0 then Reader.fail "division by zero"
        else return (toString (f m n)).toList
    | _, _ => Reader.fail "non-integer argument"
  let compare (numbers : Int → Int → Bool) (texts : Octets → Octets → Bool) : Reader Octets :=
    return match number? a, number? b with
      | some m, some n => if numbers m n then ['1'] else ['0']
      | _, _ => if texts a b then ['1'] else ['0']
  match op with
  | "+" => reckon (· + ·) false
  | "-" => reckon (· - ·) false
  | "*" => reckon (· * ·) false
  | "/" => reckon Int.tdiv true
  | "%" => reckon Int.tmod true
  | "<" => compare (fun m n => m < n) fun a b => a < b
  | "<=" => compare (fun m n => m ≤ n) fun a b => a ≤ b
  | ">" => compare (fun m n => m > n) fun a b => a > b
  | ">=" => compare (fun m n => m ≥ n) fun a b => a ≥ b
  | "!=" => compare (fun m n => m ≠ n) fun a b => a ≠ b
  | ":" => matchFront wide a b
  | _ => compare (fun m n => m = n) fun a b => a = b

def levels : List (List String) :=
  [["|"], ["&"], ["<", "<=", "=", "==", "!=", ">=", ">"], ["+", "-"], ["*", "/", "%"], [":"]]

def indexIn (s chars : List Char) : Nat :=
  match s.findIdx? chars.contains with
  | some n => n + 1
  | none => 0

mutual

/-- Reads operands with operators of a level and tighter ones between them. -/
def readLevel (wide : Bool) (fuel : Nat) (live : Bool) (level : Nat) : Reader Octets := do
  match fuel with
  | 0 => Reader.fail "syntax error"
  | fuel + 1 =>
    match levels[level]? with
    | none => readOperand wide fuel live
    | some ops => do
        let first ← readLevel wide fuel live (level + 1)
        readMore wide fuel live level ops first

def readMore (wide : Bool) (fuel : Nat) (live : Bool) (level : Nat) (ops : List String)
    (left : Octets) : Reader Octets := do
  match fuel with
  | 0 => Reader.fail "syntax error"
  | fuel + 1 =>
    match ← Reader.take? ops with
    | none => return left
    | some op => do
        let matters := match op with
          | "|" => live && isNull left
          | "&" => live && !isNull left
          | _ => live
        let right ← readLevel wide fuel matters (level + 1)
        let value : Octets ← match op with
          | "|" =>
              pure (if !isNull left then left else if isNull right then ['0'] else right)
          | "&" => pure (if isNull left || isNull right then ['0'] else left)
          | _ => if live then compute wide op left right else pure left
        readMore wide fuel live level ops value

def readOperand (wide : Bool) (fuel : Nat) (live : Bool) : Reader Octets := do
  match fuel with
  | 0 => Reader.fail "syntax error"
  | fuel + 1 =>
    requireMore wide
    let chars (s : Octets) : List Char := if wide then Octets.toWide s else s
    match ← Reader.take? ["+", "length", "match", "index", "substr", "(", ")"] with
    | some "+" => do
        requireMore wide
        let value := ((← get).args.headD [])
        Reader.skip
        return value
    | some "length" => do
        let s ← readOperand wide fuel live
        return Octets.ofNat (chars s).length
    | some "match" => do
        let s ← readOperand wide fuel live
        let pattern ← readOperand wide fuel live
        if live then matchFront wide s pattern else return []
    | some "index" => do
        let s ← readOperand wide fuel live
        let set ← readOperand wide fuel live
        return Octets.ofNat (indexIn (chars s) (chars set))
    | some "substr" => do
        let s ← readOperand wide fuel live
        let start ← readOperand wide fuel live
        let size ← readOperand wide fuel live
        match number? start, number? size with
        | some m, some n =>
            if m ≤ 0 || n ≤ 0 then return []
            else
              let part := ((chars s).drop (m.toNat - 1)).take n.toNat
              return if wide then Octets.ofWide part else part
        | _, _ => return []
    | some "(" => do
        let value ← readLevel wide fuel live 0
        let r ← get
        match r.args with
        | [')'] :: _ => do
            Reader.skip
            return value
        | [] => throw ("syntax error: expecting ')' after ".toList ++ mark wide r.last)
        | a :: _ => throw ("syntax error: expecting ')' instead of ".toList ++ mark wide a)
    | some _ => Reader.fail "syntax error: unexpected ')'"
    | none => do
        let value := ((← get).args.headD [])
        Reader.skip
        return value

end

def expr (c : Context) : Answer :=
  let args := if c.args.head? = some "--".toList then c.args.drop 1 else c.args
  if args.isEmpty then
    .failure c 2 ("expr: missing operand".toList ++ tryHelp "expr")
  else if args = ["--version".toList] || args = ["--help".toList] then
    withOptions c "expr" 2 "" [] fun _ => .status c 0
  else match (readLevel c.isWide (20 * args.length + 20) true 0).run ⟨args, []⟩ with
    | .error message => .failure c 2 ("expr: ".toList ++ message)
    | .ok (_, ⟨a :: _, _⟩) =>
        .failure c 2 ("expr: syntax error: unexpected argument ".toList ++ mark c.isWide a)
    | .ok (value, _) => .ends ⟨[.out (value ++ ['\n'])], if isNull value then 1 else 0, c.tree⟩

end Expression

end Utility

end Conformance
