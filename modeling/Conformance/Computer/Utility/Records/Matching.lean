import Conformance.Computer.Text.Regex

/-!
# Regular expressions of programs

The regular expressions of `awk` are extended ones in which a backslash has its meaning also inside
brackets, and spells characters as in texts.
-/

namespace Conformance

namespace Utility

namespace Records

def isOctal (c : Char) : Bool := '0' ≤ c && c ≤ '7'

def hexadecimal? (c : Char) : Option Nat :=
  if c.isDigit then some (c.toNat - '0'.toNat)
  else if 'a' ≤ c.toLower ∧ c.toLower ≤ 'f' then some (c.toLower.toNat - 'a'.toNat + 10)
  else none

/-- The character that the text behind a backslash spells, and how much of the text that takes. -/
def spelled? (s : Octets) : Option (Char × Nat) :=
  match s with
  | [] => none
  | c :: rest =>
      match c with
      | 'a' => some ('\x07', 1)
      | 'b' => some ('\x08', 1)
      | 'f' => some ('\x0c', 1)
      | 'n' => some ('\n', 1)
      | 'r' => some ('\r', 1)
      | 't' => some ('\t', 1)
      | 'v' => some ('\x0b', 1)
      | '"' => some ('"', 1)
      | '/' => some ('/', 1)
      | '\\' => some ('\\', 1)
      | 'x' =>
          let digits := (rest.take 2).filterMap hexadecimal?
          let digits := if (rest.head?.bind hexadecimal?).isSome then digits else []
          if digits.isEmpty then none
          else some (Char.ofNat (digits.foldl (fun n d => 16 * n + d) 0), digits.length + 1)
      | c =>
          if isOctal c then
            let digits := (s.take 3).takeWhile isOctal
            some (Char.ofNat (digits.foldl (fun n d => 8 * n + (d.toNat - '0'.toNat)) 0 % 256),
              digits.length)
          else none

/-- A text with its escapes replaced; other backslashes stay. -/
def unescaped (s : Octets) : Octets :=
  go s.length s
where
  go (fuel : Nat) (s : Octets) : Octets :=
    match fuel, s with
    | 0, _ | _, [] => s
    | fuel + 1, '\\' :: rest =>
        match rest, spelled? rest with
        | '\n' :: rest, _ => go fuel rest
        | _, some (c, n) => c :: go fuel (rest.drop n)
        | _, none => '\\' :: go fuel rest
    | fuel + 1, c :: rest => c :: go fuel rest

def literal (c : Char) : Octets :=
  if ".[]\\()*+?\x7b\x7d|^$".toList.contains c then ['\\', c] else [c]

/-- What stands inside brackets, and the text behind them. -/
structure Brackets where
  negated : Bool
  ranges : List CharRange
  rest : Octets

def readBrackets? (s : Octets) : Option Brackets :=
  match s with
  | '^' :: rest => (go rest.length true [] rest).map fun (ranges, rest) => ⟨true, ranges, rest⟩
  | _ => (go s.length true [] s).map fun (ranges, rest) => ⟨false, ranges, rest⟩
where
  char (s : Octets) : Option (Char × Octets) :=
    match s with
    | [] => none
    | '\\' :: rest =>
        match spelled? rest, rest with
        | some (c, n), _ => some (c, rest.drop n)
        | none, c :: rest => some (c, rest)
        | none, [] => none
    | c :: rest => some (c, rest)
  go (fuel : Nat) (first : Bool) (ranges : List CharRange) (s : Octets) :
      Option (List CharRange × Octets) :=
    match fuel with
    | 0 => match s with
        | ']' :: rest => if first then none else some (ranges, rest)
        | _ => none
    | fuel + 1 =>
      match s, first with
      | ']' :: rest, false => some (ranges, rest)
      | '[' :: ':' :: inner, _ =>
          let name := inner.takeWhile (· != ':')
          match inner.drop name.length with
          | ':' :: ']' :: rest => go fuel false (ranges ++ [.named name]) rest
          | _ => go fuel false (ranges ++ [.span '[' '[']) (':' :: inner)
      | s, _ =>
          match char s with
          | none => none
          | some (low, rest) =>
              match rest with
              | '-' :: after =>
                  if after.head? == some ']' then go fuel false (ranges ++ [.span low low]) rest
                  else match char after with
                    | some (high, rest) => go fuel false (ranges ++ [.span low high]) rest
                    | none => none
              | rest => go fuel false (ranges ++ [.span low low]) rest

inductive Flaw where
  | missingOperand
  | unclosedGroup
  | badSet
  | doubledAnchor
  | tooLarge
  deriving DecidableEq, Repr

def Flaw.message : Flaw → String
  | missingOperand => "missing operand"
  | unclosedGroup => "missing ')'"
  | badSet => "bad class -- [], [^] or ["
  | doubledAnchor => "syntax error ^* or ^+"
  | tooLarge => "resource exhaustion -- regular expression too large"

/-- One part of an expression: a character that is meant as such, a set, or a sign. -/
inductive Piece where
  | char (c : Char)
  | set (b : Bool) (ranges : List CharRange)
  | sign (c : Char)
  | bounds (least : Nat) (most : Option Nat)

/-- The parts of an expression; fuel bounds the length of the text. -/
def pieces (fuel : Nat) (s : Octets) : Except Flaw (List Piece) := do
  match fuel, s with
  | 0, _ | _, [] => return []
  | fuel + 1, '\\' :: rest =>
      match spelled? rest, rest with
      | some (c, n), _ => return .char c :: (← pieces fuel (rest.drop n))
      | none, c :: rest => return .char c :: (← pieces fuel rest)
      | none, [] => return [.char '\\']
  | fuel + 1, '[' :: rest =>
      match readBrackets? rest with
      | some b => return .set b.negated b.ranges :: (← pieces fuel b.rest)
      | none => throw .badSet
  | fuel + 1, c :: rest =>
      if c == '\x7b' then
        match Regex.readBounds .extended rest with
        | some ((least, most), rest) => return .bounds least most :: (← pieces fuel rest)
        | none => return .char c :: (← pieces fuel rest)
      else if ".()*+?|^$".toList.contains c then return .sign c :: (← pieces fuel rest)
      else return .char c :: (← pieces fuel rest)

abbrev PieceReader := StateT (List Piece) (Except Flaw)

def readRepeats (fuel : Nat) (r : Regex) : PieceReader Regex := do
  match fuel with
  | 0 => return r
  | fuel + 1 =>
    let again (r : Regex) (rest : List Piece) : PieceReader Regex := do
      set rest
      readRepeats fuel r
    match ← get with
    | .sign '*' :: rest => again (.repeated r 0 none) rest
    | .sign '+' :: rest => again (.repeated r 1 none) rest
    | .sign '?' :: rest => again (.repeated r 0 (some 1)) rest
    | .bounds least most :: rest =>
        -- From two on, an item is repeated just as often as the lower bound says.
        again (.repeated r least (if least ≥ 2 then some least else most)) rest
    | _ => return r

mutual

def readBranches (fuel depth : Nat) : PieceReader Regex := do
  match fuel with
  | 0 => throw .tooLarge
  | fuel + 1 =>
    let first ← readItems fuel depth true
    match ← get with
    | .sign '|' :: rest => do
        set rest
        return .either first (← readBranches fuel depth)
    | _ => return first

def readItems (fuel depth : Nat) (atStart : Bool) : PieceReader Regex := do
  match fuel with
  | 0 => throw .tooLarge
  | fuel + 1 =>
    let item (r : Regex) (rest : List Piece) : PieceReader Regex := do
      set rest
      let r ← readRepeats fuel r
      return .sequence r (← readItems fuel depth false)
    let finish : PieceReader Regex := if atStart then throw .missingOperand else pure .empty
    match ← get with
    | [] => if depth > 0 then throw .unclosedGroup else finish
    | .sign '|' :: _ => finish
    | .sign ')' :: rest => if depth = 0 then item (.one ')') rest else finish
    | .sign '(' :: rest => do
        set rest
        let inner ← readBranches fuel (depth + 1)
        match ← get with
        | .sign ')' :: rest => item inner rest
        | _ => throw .unclosedGroup
    | .sign '^' :: rest =>
        match rest with
        | .sign '*' :: _ | .sign '+' :: _ | .sign '?' :: _ => throw .doubledAnchor
        | rest => item .textStart rest
    | .sign '$' :: rest => item .textEnd rest
    | .sign '.' :: rest => item .anyOne rest
    | .sign _ :: _ => throw .missingOperand
    | .bounds _ _ :: _ => throw .tooLarge
    | .char c :: rest => item (.one c) rest
    | .set negated ranges :: rest => item (.oneOf negated ranges) rest

end

def regexOf (s : Octets) : Except Flaw Regex := do
  if s.isEmpty then return .empty
  let parts ← pieces (s.length + 1) s
  let (r, _) ← (readBranches (2 * parts.length + 8) 0).run parts
  return r

/-- The first match in a text from a place on: where it begins and ends. -/
def search (r : Regex) (t : Regex.Subject) (start : Nat) : Option (Nat × Nat) :=
  (Regex.find? t r start).map fun m => (m.first, m.last)

def subjectOf (s : Octets) : Regex.Subject := ⟨s.toArray, .standard⟩

def isMatch (r : Regex) (s : Octets) : Bool := (search r (subjectOf s) 0).isSome

end Records

end Utility

end Conformance
