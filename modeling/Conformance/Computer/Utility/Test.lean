import Conformance.Computer.Utility.Format

/-!
# Conditions

The conditions that `test` and `[` decide.  The number of arguments tells what each of them is.  The
plain shell looks one argument ahead instead where there are more than four.
-/

namespace Conformance

namespace Utility

namespace Test

open Format (Voice)

/-- What conditions are about: the files, and what a shell knows about itself. -/
structure Subject where
  voice : Voice
  tree : FileTree
  directory : Location
  isOption : Octets → Bool
  isVariable : Octets → Bool

/-- What a condition comes to: an outcome, or a complaint. -/
abbrev Decision := Except Octets Bool

def isUnary (s : Subject) (op : Octets) : Bool :=
  match op with
  | ['-', c] =>
      "bcdefghknprstuwxzLOGS".toList.contains c ||
        (s.voice != .plainShell && c == 'N') ||
        (s.voice == .extendedShell && (c == 'a' || c == 'o' || c == 'v' || c == 'R'))
  | _ => false

def isBinary (s : Subject) (op : Octets) : Bool :=
  ["=", "!=", "-eq", "-ne", "-lt", "-le", "-gt", "-ge", "-nt", "-ot", "-ef"].any
    (·.toList = op) ||
    (s.voice != .program && (op = ['<'] || op = ['>'])) ||
    (s.voice != .plainShell && op = ['=', '='])

/-- The entry at a path, with what is known about it. -/
def nodeAt? (s : Subject) (path : Octets) (follow : Bool) : Option Node :=
  match s.tree.lookup s.directory (pathOf path) follow with
  | .ok (loc, _) => s.tree.node? loc
  | .error _ => none

/-- How large a file is; a directory is never empty. -/
def sizeOf (n : Node) : Nat :=
  match n.entry with
  | .file content => content.data.length
  | .directory => 4096
  | .link target => target.text.utf8ByteSize

def number (s : Subject) (text : Octets) : Except Octets Int :=
  let trimmed := ((text.dropWhile isSpace).reverse.dropWhile isSpace).reverse
  let complaint : Octets := match s.voice with
    | .plainShell => "Illegal number: ".toList ++ text
    | .extendedShell => text ++ ": integer expression expected".toList
    | .program => "invalid integer '".toList ++ text ++ ['\'']
  match readInt? trimmed with
  | some n =>
      if s.voice != .program && (n < -2 ^ 63 || n ≥ 2 ^ 63) then .error complaint else .ok n
  | none => .error complaint

def unary (s : Subject) (op arg : Octets) : Decision :=
  let node? := nodeAt? s arg true
  let isKind (p : Content → Bool) : Bool := node?.any fun n =>
    match n.entry with
    | .file content => p content
    | _ => false
  let hasBit (bit : Nat) : Bool := node?.any fun n => n.stamp.mode.testBit bit
  match op with
  | ['-', 'n'] => .ok (!arg.isEmpty)
  | ['-', 'z'] => .ok arg.isEmpty
  | ['-', 'e'] | ['-', 'a'] | ['-', 'O'] | ['-', 'G'] => .ok node?.isSome
  | ['-', 'r'] => .ok (node?.any fun n => n.stamp.isReadable)
  | ['-', 'w'] => .ok (node?.any fun n => n.stamp.isWritable)
  | ['-', 'x'] => .ok (node?.any fun n => n.stamp.isExecutable)
  | ['-', 'f'] => .ok (node?.any fun n => n.entry.isRegular)
  | ['-', 'd'] => .ok (node?.any fun n => n.entry.isDirectory)
  | ['-', 'h'] | ['-', 'L'] => .ok ((nodeAt? s arg false).any fun n => n.entry.isLink)
  | ['-', 's'] | ['-', 'N'] => .ok (node?.any fun n => sizeOf n > 0)
  | ['-', 'u'] => .ok (hasBit 11)
  | ['-', 'g'] => .ok (hasBit 10)
  | ['-', 'k'] => .ok (hasBit 9)
  | ['-', 'c'] => .ok (isKind fun content => match content with
      | .null | .zeros | .full => true
      | _ => false)
  | ['-', 'p'] => .ok (isKind fun content => match content with
      | .fifo => true
      | _ => false)
  | ['-', 't'] => (number s arg).map fun _ => false
  | ['-', 'o'] => .ok (s.isOption arg)
  | ['-', 'v'] => .ok (s.isVariable arg)
  | _ => .ok false

def binary (s : Subject) (a op b : Octets) : Decision :=
  let compare (p : Int → Int → Bool) : Decision := do return p (← number s a) (← number s b)
  let newer (a b : Octets) : Bool :=
    match nodeAt? s a true, nodeAt? s b true with
    | some m, some n => m.stamp.time > n.stamp.time
    | some _, none => s.voice != .plainShell
    | _, _ => false
  if op = "=".toList || op = "==".toList then .ok (a = b)
  else if op = "!=".toList then .ok (a ≠ b)
  else if op = "<".toList then .ok (decide (a < b))
  else if op = ">".toList then .ok (decide (b < a))
  else if op = "-eq".toList then compare fun m n => m = n
  else if op = "-ne".toList then compare fun m n => m ≠ n
  else if op = "-lt".toList then compare fun m n => m < n
  else if op = "-le".toList then compare fun m n => m ≤ n
  else if op = "-gt".toList then compare fun m n => m > n
  else if op = "-ge".toList then compare fun m n => m ≥ n
  else if op = "-nt".toList then .ok (newer a b)
  else if op = "-ot".toList then .ok (newer b a)
  else if op = "-ef".toList then
    match nodeAt? s a true, nodeAt? s b true with
    | some m, some n => .ok (m.stamp.number = n.stamp.number)
    | _, _ => .ok false
  else .ok false

/-! ## The plain shell -/

/-- What an argument is, in view of those behind it. -/
inductive Token where
  | ending
  | not
  | opens
  | closes
  | both
  | either
  | unary
  | binary
  | operand
  deriving DecidableEq, Repr

/-- What a word may be, wherever it stands. -/
def kindOf (s : Subject) (word : Octets) : Token :=
  if word = ['!'] then .not
  else if word = ['('] then .opens
  else if word = [')'] then .closes
  else if word = ['-', 'a'] then .both
  else if word = ['-', 'o'] then .either
  else if isUnary s word then .unary
  else if isBinary s word then .binary
  else .operand

def tokenAt (s : Subject) (args : List Octets) : Token :=
  match args with
  | [] => .ending
  | word :: rest =>
      match kindOf s word, rest with
      | .unary, [] => .operand
      | .unary, [_] => .unary
      | .unary, next :: _ => if kindOf s next = .binary then .operand else .unary
      | .opens, [] => .operand
      | kind, _ => kind

mutual

def lookDisjunction (fuel : Nat) (s : Subject) (n : Token) (args : List Octets) :
    Except Octets (Bool × List Octets) := do
  match fuel with
  | 0 => throw "too many arguments".toList
  | fuel + 1 =>
    let (first, args) ← lookConjunction fuel s n args
    if tokenAt s (args.drop 1) = .either then
      let args := args.drop 2
      let (second, args) ← lookDisjunction fuel s (tokenAt s args) args
      return (first || second, args)
    else return (first, args)

def lookConjunction (fuel : Nat) (s : Subject) (n : Token) (args : List Octets) :
    Except Octets (Bool × List Octets) := do
  match fuel with
  | 0 => throw "too many arguments".toList
  | fuel + 1 =>
    let (first, args) ← lookNegation fuel s n args
    if tokenAt s (args.drop 1) = .both then
      let args := args.drop 2
      let (second, args) ← lookConjunction fuel s (tokenAt s args) args
      return (first && second, args)
    else return (first, args)

def lookNegation (fuel : Nat) (s : Subject) (n : Token) (args : List Octets) :
    Except Octets (Bool × List Octets) := do
  match fuel with
  | 0 => throw "too many arguments".toList
  | fuel + 1 =>
    if n = .not then
      let next := tokenAt s (args.drop 1)
      let args := if next = .ending then args else args.drop 1
      let (r, args) ← lookNegation fuel s next args
      return (!r, args)
    else lookPrimary fuel s n args

def lookPrimary (fuel : Nat) (s : Subject) (n : Token) (args : List Octets) :
    Except Octets (Bool × List Octets) := do
  match fuel with
  | 0 => throw "too many arguments".toList
  | fuel + 1 =>
    match n, args with
    | .ending, _ => return (false, args)
    | .opens, _ :: inner =>
        let next := tokenAt s inner
        if next = .closes then return (false, inner)
        else do
          let (r, args) ← lookDisjunction fuel s next inner
          if tokenAt s (args.drop 1) = .closes then return (r, args.drop 1)
          else throw "closing paren expected".toList
    | .unary, op :: rest =>
        match rest with
        | [] => throw (op ++ ": argument expected".toList)
        | arg :: _ => return (← unary s op arg, rest)
    | _, first :: rest =>
        match rest with
        | op :: b :: after =>
            if kindOf s op = .binary then return (← binary s first op b, b :: after)
            else return (!first.isEmpty, args)
        | [op] =>
            if kindOf s op = .binary then throw (op ++ ": argument expected".toList)
            else return (!first.isEmpty, args)
        | [] => return (!first.isEmpty, args)
    | _, [] => return (false, [])

end

/-- Decides the condition as the plain shell does; fuel bounds the marks of negation in front. -/
def decidePlain (fuel : Nat) (s : Subject) (args : List Octets) : Decision := do
  match fuel with
  | 0 => throw "too many arguments".toList
  | fuel + 1 =>
    let whole (n : Token) (args : List Octets) : Decision := do
      let (r, rest) ← lookDisjunction (4 * args.length + 8) s n args
      match rest with
      | word :: _ :: _ => throw (word ++ ": unexpected operator".toList)
      | _ => return r
    match args with
    | [] => return false
    | [_, op, _] =>
        if kindOf s op = .binary then whole .operand args else special fuel whole args
    | [_, _, _, _] => special fuel whole args
    | args => whole (tokenAt s args) args
where
  special (fuel : Nat) (whole : Token → List Octets → Decision) (args : List Octets) :
      Decision := do
    if args.head? = some ['('] && args.getLast? = some [')'] then
      let inner := (args.drop 1).dropLast
      whole (tokenAt s inner) inner
    else if args.head? = some ['!'] then return !(← decidePlain fuel s (args.drop 1))
    else whole (tokenAt s args) args

/-! ## The others -/

mutual

/-- Decides a disjunction at the front of the arguments, and gives what follows it. -/
def disjunction (fuel : Nat) (s : Subject) (args : List Octets) :
    Except Octets (Bool × List Octets) := do
  match fuel with
  | 0 => throw "too many arguments".toList
  | fuel + 1 =>
    let (first, rest) ← conjunction fuel s args
    match rest with
    | ['-', 'o'] :: rest => do
        let (second, rest) ← disjunction fuel s rest
        return (first || second, rest)
    | rest => return (first, rest)

def conjunction (fuel : Nat) (s : Subject) (args : List Octets) :
    Except Octets (Bool × List Octets) := do
  match fuel with
  | 0 => throw "too many arguments".toList
  | fuel + 1 =>
    let (first, rest) ← primary fuel s args
    match rest with
    | ['-', 'a'] :: rest => do
        let (second, rest) ← conjunction fuel s rest
        return (first && second, rest)
    | rest => return (first, rest)

def primary (fuel : Nat) (s : Subject) (args : List Octets) :
    Except Octets (Bool × List Octets) := do
  match fuel with
  | 0 => throw "too many arguments".toList
  | fuel + 1 =>
    match args with
    | [] => throw "argument expected".toList
    | ['!'] :: rest => do
        let (r, rest) ← primary fuel s rest
        return (!r, rest)
    | ['('] :: rest => do
        let (r, rest) ← disjunction fuel s rest
        match rest with
        | [')'] :: rest => return (r, rest)
        | _ => throw "')' expected".toList
    | a :: op :: b :: rest =>
        if isBinary s op then return (← binary s a op b, rest)
        else if isUnary s a then return (← unary s a op, b :: rest)
        else return (!a.isEmpty, op :: b :: rest)
    | [a, b] => if isUnary s a then return (← unary s a b, []) else return (!a.isEmpty, [b])
    | [a] => return (!a.isEmpty, [])

end

def decideTwo (s : Subject) (a b : Octets) : Decision :=
  if a = ['!'] then .ok b.isEmpty
  else if isUnary s a then unary s a b
  else .error (a ++ ": unary operator expected".toList)

def decideWhole (s : Subject) (args : List Octets) : Decision := do
  let (r, rest) ← disjunction (4 * args.length + 8) s args
  match rest with
  | [] => return r
  | word :: _ =>
      throw (if s.voice == .program then "extra argument ".toList ++ '\'' :: word ++ ['\'']
        else "too many arguments".toList)

def decideThree (s : Subject) (a op b : Octets) : Decision :=
  if isBinary s op then binary s a op b
  else if op = ['-', 'a'] then .ok (!a.isEmpty && !b.isEmpty)
  else if op = ['-', 'o'] then .ok (!a.isEmpty || !b.isEmpty)
  else if a = ['!'] then do return !(← decideTwo s op b)
  else if a = ['('] && b = [')'] then .ok (!op.isEmpty)
  else .error (op ++ ": binary operator expected".toList)

def decideArgs (s : Subject) (args : List Octets) : Decision :=
  if s.voice == .plainShell then decidePlain (args.length + 1) s args
  else match args with
    | [] => .ok false
    | [a] => .ok (!a.isEmpty)
    | [a, b] => decideTwo s a b
    | [a, b, c] => decideThree s a b c
    | [a, b, c, d] =>
        if a = ['!'] then do return !(← decideThree s b c d)
        else if a = ['('] && d = [')'] then decideTwo s b c
        else decideWhole s args
    | args => decideWhole s args

def run (s : Subject) (name : String) (args : List Octets) : Nat × Option Octets :=
  let complaint (text : Octets) : Nat × Option Octets :=
    (2, some (name.toList ++ ": ".toList ++ text))
  let outcome (args : List Octets) : Nat × Option Octets :=
    match decideArgs s args with
    | .ok true => (0, none)
    | .ok false => (1, none)
    | .error text => complaint text
  if name = "[" then
    if args.getLast? = some [']'] then outcome args.dropLast else complaint (match s.voice with
      | .plainShell => "missing ]".toList
      | .extendedShell => "missing `]'".toList
      | .program => Octets.ofString "missing ‘]’")
  else outcome args

def program (name : String) (c : Context) : Answer :=
  let s : Subject :=
    { voice := .program
      tree := c.tree
      directory := c.directory
      isOption := fun _ => false
      isVariable := fun _ => false }
  let (status, complaint?) := run s name c.args
  .ends ⟨(complaint?.map fun text => Print.err (text ++ ['\n'])).toList, status, c.tree⟩

end Test

end Utility

end Conformance
