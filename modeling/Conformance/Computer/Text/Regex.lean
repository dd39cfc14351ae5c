import Conformance.Computer.Shell.Pattern

/-!
# Regular expressions

The basic and the extended expressions of POSIX.  Of all matches the one that starts first is taken,
and of those the longest.  Inside it, of two alternatives the first one is taken that leads to the
end of the match, and repetitions go on as long as they can.  Expressions that refer back to a group
are matched by trying all ways.
-/

namespace Conformance

inductive Regex where
  | empty
  | one (c : Char)
  | anyOne
  | oneOf (negated : Bool) (ranges : List CharRange)
  | lineStart
  | lineEnd
  | textStart
  | textEnd
  | wordStart
  | wordEnd
  | wordEdge (inside : Bool)
  | sequence (a b : Regex)
  | either (a b : Regex)
  | group (index : Nat) (r : Regex)
  | repeated (r : Regex) (least : Nat) (most : Option Nat)
  | again (index : Nat)
  deriving Repr, Inhabited

namespace Regex

/-- The two ways of writing regular expressions. -/
inductive Dialect where
  | basic
  | extended
  deriving DecidableEq, Repr

/-! ## Reading -/

abbrev Reader := StateT (List Char × Nat) Option

/-- Bounds of a repetition in braces, with the characters after the closing brace. -/
def readBounds (d : Dialect) (s : List Char) : Option ((Nat × Option Nat) × List Char) :=
  let number (digits : List Char) : Nat :=
    digits.foldl (fun k c => 10 * k + (c.toNat - '0'.toNat)) 0
  let low := s.takeWhile Char.isDigit
  let close (most : Option Nat) (rest : List Char) : Option ((Nat × Option Nat) × List Char) :=
    if most.any (· < number low) then none
    else match d, rest with
      | .basic, '\\' :: '}' :: rest => some ((number low, most), rest)
      | .extended, '}' :: rest => some ((number low, most), rest)
      | _, _ => none
  match s.drop low.length with
  | ',' :: rest =>
      let high := rest.takeWhile Char.isDigit
      close (if high.isEmpty then none else some (number high)) (rest.drop high.length)
  | rest => if low.isEmpty then none else close (some (number low)) rest

def readRepetitions (d : Dialect) (fuel : Nat) (r : Regex) : Reader Regex := do
  match fuel with
  | 0 => return r
  | fuel + 1 =>
    let (s, k) ← get
    let again (r : Regex) (rest : List Char) : Reader Regex := do
      set (rest, k)
      readRepetitions d fuel r
    match d, s with
    | _, '*' :: rest => again (.repeated r 0 none) rest
    | .basic, '\\' :: '+' :: rest | .extended, '+' :: rest => again (.repeated r 1 none) rest
    | .basic, '\\' :: '?' :: rest | .extended, '?' :: rest => again (.repeated r 0 (some 1)) rest
    | .basic, '\\' :: '{' :: rest =>
        match readBounds d rest with
        | some ((least, most), rest) => again (.repeated r least most) rest
        | none => failure
    | .extended, '{' :: rest =>
        match readBounds d rest with
        | some ((least, most), rest) => again (.repeated r least most) rest
        | none => return r
    | _, _ => return r

def wordRanges : List CharRange := [.named "alnum".toList, .span '_' '_']

def escaped (c : Char) : Regex :=
  match c with
  | 'w' => .oneOf false wordRanges
  | 'W' => .oneOf true wordRanges
  | 's' => .oneOf false [.named "space".toList]
  | 'S' => .oneOf true [.named "space".toList]
  | 'b' => .wordEdge false
  | 'B' => .wordEdge true
  | '<' => .wordStart
  | '>' => .wordEnd
  | '`' => .textStart
  | '\'' => .textEnd
  | c => if '1' ≤ c ∧ c ≤ '9' then .again (c.toNat - '0'.toNat) else .one c

def classNames : List String :=
  ["alnum", "alpha", "blank", "cntrl", "digit", "graph", "lower", "print", "punct", "space",
    "upper", "xdigit"]

def hasUnknownClass (ranges : List CharRange) : Bool :=
  ranges.any fun
    | .span _ _ => false
    | .named name => !classNames.any fun n => n.toList = name

def hasReversedRange (ranges : List CharRange) : Bool :=
  ranges.any fun
    | .span low high => high < low
    | .named _ => false

mutual

def readAlternatives (d : Dialect) (fuel depth : Nat) : Reader Regex := do
  match fuel with
  | 0 => failure
  | fuel + 1 =>
    let first ← readSequence d fuel depth true
    let (s, k) ← get
    match d, s with
    | .basic, '\\' :: '|' :: rest | .extended, '|' :: rest => do
        set (rest, k)
        return .either first (← readAlternatives d fuel depth)
    | _, _ => return first

/-- Reads items up to a bar, a closing parenthesis or the end. -/
def readSequence (d : Dialect) (fuel depth : Nat) (atStart : Bool) : Reader Regex := do
  match fuel with
  | 0 => failure
  | fuel + 1 =>
    let (s, k) ← get
    let item (r : Regex) (rest : List Char) : Reader Regex := do
      set (rest, k)
      let r ← readRepetitions d fuel r
      return .sequence r (← readSequence d fuel depth false)
    let anchor (r : Regex) (rest : List Char) : Reader Regex := do
      set (rest, k)
      match d with
      | .basic => return .sequence r (← readSequence d fuel depth true)
      | .extended => do
          let r ← readRepetitions d fuel r
          return .sequence r (← readSequence d fuel depth false)
    let grouped (rest : List Char) : Reader Regex := do
      set (rest, k + 1)
      let inner ← readAlternatives d fuel (depth + 1)
      let (s, k') ← get
      let after ← match d, s with
        | .basic, '\\' :: ')' :: after | .extended, ')' :: after => pure after
        | _, _ => failure
      set (after, k')
      let r ← readRepetitions d fuel (.group (k + 1) inner)
      return .sequence r (← readSequence d fuel depth false)
    match d, s with
    | _, [] => return .empty
    | .basic, '\\' :: '|' :: _ | .extended, '|' :: _ => return .empty
    | .basic, '\\' :: ')' :: _ => if depth = 0 then failure else return .empty
    | .extended, ')' :: rest => if depth = 0 then item (.one ')') rest else return .empty
    | .basic, '\\' :: '(' :: rest | .extended, '(' :: rest => grouped rest
    | .basic, '^' :: rest => if atStart then anchor .lineStart rest else item (.one '^') rest
    | .extended, '^' :: rest => anchor .lineStart rest
    | .basic, '$' :: rest =>
        let ends := match rest with
          | [] | '\\' :: ')' :: _ | '\\' :: '|' :: _ => true
          | _ => false
        item (if ends then .lineEnd else .one '$') rest
    | .extended, '$' :: rest => item .lineEnd rest
    | .basic, '*' :: rest => item (.one '*') rest
    | .basic, '\\' :: '{' :: _ => failure
    | .extended, '*' :: rest | .extended, '+' :: rest | .extended, '?' :: rest => do
        if atStart then
          set (rest, k)
          readSequence d fuel depth true
        else item (.one (s.headD '*')) rest
    | _, '.' :: rest => item .anyOne rest
    | _, '[' :: rest =>
        let (negated, inner) := match rest with
          | '^' :: inner => (true, inner)
          | inner => (false, inner)
        match CharRange.readSet true [] inner with
        | some (ranges, rest) =>
            if hasReversedRange ranges || hasUnknownClass ranges then failure
            else item (.oneOf negated ranges) rest
        | none => failure
    | _, '\\' :: c :: rest =>
        match escaped c with
        | .again n => if n > k then failure else item (.again n) rest
        | r => item r rest
    | _, ['\\'] => failure
    | _, c :: rest => item (.one c) rest

end

def parse (d : Dialect) (s : List Char) : Option Regex :=
  match (readAlternatives d (4 * s.length + 8) 0).run (s, 0) with
  | some (r, ([], _)) => some r
  | _ => none

def complaint (d : Dialect) (s : List Char) : String :=
  let rec scan (fuel : Nat) (opened : Nat) (s : List Char) : String :=
    match fuel, s with
    | 0, _ => "Invalid regular expression"
    | _, [] =>
        if opened > 0 then "Unmatched ( or \\(" else "Invalid preceding regular expression"
    | _ + 1, ['\\'] => "Trailing backslash"
    | fuel + 1, '\\' :: c :: rest =>
        match d, c with
        | .basic, '(' => scan fuel (opened + 1) rest
        | .basic, ')' => if opened = 0 then "Unmatched ) or \\)" else scan fuel (opened - 1) rest
        | .basic, '{' => bounds rest
        | _, c =>
            if '1' ≤ c ∧ c ≤ '9' ∧ opened = 0 ∧ !s.contains '(' then "Invalid back reference"
            else scan fuel opened rest
    | fuel + 1, '[' :: rest =>
        let inner := match rest with
          | '^' :: inner => inner
          | inner => inner
        match CharRange.readSet true [] inner with
        | some (ranges, rest) =>
            if hasUnknownClass ranges then "Invalid character class name"
            else if hasReversedRange ranges then "Invalid range end"
            else scan fuel opened rest
        | none => "Unmatched [, [^, [:, [., or [="
    | fuel + 1, c :: rest =>
        match d, c with
        | .extended, '(' => scan fuel (opened + 1) rest
        | .extended, ')' =>
            if opened = 0 then "Unmatched ) or \\)" else scan fuel (opened - 1) rest
        | .extended, '\x7b' => bounds rest
        | _, _ => scan fuel opened rest
  scan (s.length + 1) 0 s
where
  bounds (rest : List Char) : String :=
    if rest.contains '\x7d' then "Invalid content of \\\x7b\\\x7d" else "Unmatched \\\x7b"

/-- An expression has a set that was meant to be the name of a class, with one pair of brackets too
few. -/
def hasBareClass (s : List Char) : Bool :=
  let rec scan (fuel : Nat) (s : List Char) : Bool :=
    match fuel, s with
    | 0, _ | _, [] => false
    | fuel + 1, '\\' :: _ :: rest => scan fuel rest
    | fuel + 1, '[' :: rest =>
        let inner := match rest with
          | '^' :: inner => inner
          | inner => inner
        match CharRange.readSet true [] inner with
        | none => false
        | some (ranges, after) =>
            let inside := inner.take (inner.length - after.length - 1)
            let isPlain := ranges.all fun
              | .span low high => low == high
              | .named _ => false
            (isPlain && inside.head? == some ':' && inside.getLast? == some ':' &&
              inside.any (· != ':')) || scan fuel after
    | fuel + 1, _ :: rest => scan fuel rest
  scan (s.length + 1) s

/-- What a strict reader says against an extended expression that a lenient one takes: repetitions of
nothing, bounds that are none, and closing parentheses too many. -/
def strictComplaint? (s : List Char) : Option String :=
  let rec scan (fuel opened : Nat) (atStart : Bool) (s : List Char) : Option String :=
    match fuel, s with
    | 0, _ | _, [] => none
    | fuel + 1, '\\' :: _ :: rest => scan fuel opened false rest
    | fuel + 1, '[' :: rest =>
        let inner := match rest with
          | '^' :: inner => inner
          | inner => inner
        match CharRange.readSet true [] inner with
        | some (_, rest) => scan fuel opened false rest
        | none => none
    | fuel + 1, c :: rest =>
        if c == '(' then scan fuel (opened + 1) true rest
        else if c == ')' then
          if opened = 0 then some "Unmatched ) or \\)" else scan fuel (opened - 1) false rest
        else if c == '|' then scan fuel opened true rest
        else if c == '^' then scan fuel opened atStart rest
        else if c == '*' || c == '+' || c == '?' then
          if atStart then some "Invalid preceding regular expression" else scan fuel opened false rest
        else if c == '\x7b' then
          if atStart then some "Invalid preceding regular expression"
          else match readBounds .extended rest with
            | some (_, rest) => scan fuel opened false rest
            | none => some (complaint.bounds rest)
        else scan fuel opened false rest
  scan (s.length + 1) 0 true s

def parseStrictly (d : Dialect) (s : List Char) : Except String Regex :=
  match (if d = .extended then strictComplaint? s else none) with
  | some message => .error message
  | none =>
      match parse d s with
      | some r => .ok r
      | none => .error (complaint d s)

/-- An expression in which a plus and a question mark repeat without a backslash, as a basic one. -/
def toBasic : List Char → List Char
  | [] => []
  | '\\' :: c :: rest =>
      if c == '+' || c == '?' then c :: toBasic rest else '\\' :: c :: toBasic rest
  | '[' :: ']' :: rest => '[' :: ']' :: inBrackets rest
  | '[' :: '^' :: ']' :: rest => '[' :: '^' :: ']' :: inBrackets rest
  | '[' :: rest => '[' :: inBrackets rest
  | c :: rest => if c == '+' || c == '?' then '\\' :: c :: toBasic rest else c :: toBasic rest
where
  inBrackets : List Char → List Char
    | [] => []
    | ']' :: rest => ']' :: toBasic rest
    | c :: rest => c :: inBrackets rest

def groupCount : Regex → Nat
  | .sequence a b | .either a b => max a.groupCount b.groupCount
  | .group index r => max index r.groupCount
  | .repeated r _ _ => r.groupCount
  | _ => 0

def refersBack : Regex → Bool
  | .sequence a b | .either a b => a.refersBack || b.refersBack
  | .group _ r | .repeated r _ _ => r.refersBack
  | .again _ => true
  | _ => false

/-! ## Matching -/

/-- How characters are compared, and whether lines inside a text count. -/
structure Rules where
  casing : Text.Casing
  manyLines : Bool
  deriving DecidableEq, Repr

def Rules.standard : Rules := ⟨.exact, false⟩

structure Subject where
  chars : Array Char
  rules : Rules

namespace Subject

def size (t : Subject) : Nat := t.chars.size

def isWordAt (t : Subject) (i : Nat) : Bool :=
  t.chars[i]?.any fun c => c == '_' || CharRange.inClass "alnum".toList c

def isWordBefore (t : Subject) (i : Nat) : Bool := i > 0 && t.isWordAt (i - 1)

def startsLine (t : Subject) (i : Nat) : Bool :=
  i = 0 || (t.rules.manyLines && t.chars[i - 1]? == some '\n')

def endsLine (t : Subject) (i : Nat) : Bool :=
  i = t.size || (t.rules.manyLines && t.chars[i]? == some '\n')

def isIn (t : Subject) (ranges : List CharRange) (c : Char) : Bool :=
  Shell.Pattern.isIn ⟨false, t.rules.casing⟩ ranges c

/-- Where a part that matches one character or none ends, if it matches at a place. -/
def stepAt (t : Subject) (r : Regex) (i : Nat) : Option Nat :=
  let char (p : Char → Bool) : Option Nat :=
    match t.chars[i]? with
    | some c => if p c then some (i + 1) else none
    | none => none
  let here (b : Bool) : Option Nat := if b then some i else none
  match r with
  | .empty => some i
  | .one c => char (t.rules.casing.same c)
  | .anyOne => char fun c => c.toNat < Octets.strayBase || c.toNat ≥ Octets.strayBase + 256
  | .oneOf negated ranges => char fun c => t.isIn ranges c != negated
  | .lineStart => here (t.startsLine i)
  | .lineEnd => here (t.endsLine i)
  | .textStart => here (i = 0)
  | .textEnd => here (i = t.size)
  | .wordStart => here (!t.isWordBefore i && t.isWordAt i)
  | .wordEnd => here (t.isWordBefore i && !t.isWordAt i)
  | .wordEdge inside => here ((t.isWordBefore i == t.isWordAt i) == inside)
  | _ => none

end Subject

def union (a b : List Nat) : List Nat :=
  b.foldl (fun a i => if a.contains i then a else a.takeWhile (· > i) ++ i :: a.dropWhile (· > i)) a

/-- Repeats a step from places until no new ones come; fuel bounds the number of steps. -/
def spread (step : List Nat → List Nat) (fuel : Nat) (found fresh : List Nat) : List Nat :=
  match fuel, fresh with
  | 0, _ | _, [] => found
  | fuel + 1, fresh =>
      let next := (step fresh).filter fun i => !found.contains i
      spread step fuel (union found next) next

def times (step : List Nat → List Nat) : Nat → List Nat → List Nat
  | 0, places => places
  | n + 1, places => times step n (step places)

/-- The places where matches end that begin at one of some places, greatest first. -/
def ends (t : Subject) : Regex → List Nat → List Nat
  | .sequence a b, starts => ends t b (ends t a starts)
  | .either a b, starts => union (ends t a starts) (ends t b starts)
  | .group _ r, starts => ends t r starts
  | .repeated r least most, starts =>
      let step := ends t r
      let first := times step (min least (t.size + 1)) starts
      spread step ((most.map (· - least)).getD (t.size + 1)) first first
  | .again _, _ => []
  | r, starts => union [] (starts.filterMap (t.stepAt r))

abbrev Groups := List (Nat × Nat × Nat)

/-! ### The parts of a match -/

abbrev Places := Array Bool

namespace Places

def has (e : Places) (i : Nat) : Bool := e.getD i false

def single (size j : Nat) : Places := (Array.replicate (size + 1) false).setIfInBounds j true

def union (a b : Places) : Places := a.zipWith (· || ·) b

def after (e : Places) (i : Nat) : Places := e.mapIdx fun k b => b && k > i

/-- Adds what a step leads to, until nothing new comes; fuel bounds the number of steps. -/
def gather (step : Places → Places) : Nat → Places → Places
  | 0, e => e
  | fuel + 1, e =>
      let more := e.union (step e)
      if more = e then e else gather step fuel more

def repeatedly (step : Places → Places) : Nat → Places → Places
  | 0, e => e
  | n + 1, e => repeatedly step n (step e)

end Places

def isStep : Regex → Bool
  | .sequence .. | .either .. | .group .. | .repeated .. | .again _ => false
  | _ => true

def stepsBack (t : Subject) (r : Regex) (e : Places) : Places :=
  (List.range (t.size + 1)).foldr (fun i found =>
    match t.stepAt r i with
    | some k => if found.has k then found.setIfInBounds i true else found
    | none => found) e

def begins (t : Subject) : Regex → Places → Places
  | .sequence a b, e => begins t a (begins t b e)
  | .either a b, e => (begins t a e).union (begins t b e)
  | .group _ r, e => begins t r e
  | .repeated r least most, e =>
      let step := begins t r
      let optional := match most with
        | none => if r.isStep then stepsBack t r e else Places.gather step (t.size + 1) e
        | some m => Places.gather step (m - least) e
      Places.repeatedly step (min least (t.size + 1)) optional
  | .again _, e => e.map fun _ => false
  | r, e => Array.ofFn fun i : Fin (t.size + 1) => (t.stepAt r i).any e.has

/-- How far a step is repeated from a place: to the last place of a set that is reached. -/
def farthest (t : Subject) (r : Regex) (e : Places) : Nat → Nat → Option Nat → Option Nat
  | 0, _, last? => last?
  | fuel + 1, i, last? =>
      let last? := if e.has i then some i else last?
      match t.stepAt r i with
      | some k => if k > i then farthest t r e fuel k last? else last?
      | none => last?

/-- How a match from one place to one of a set goes through the parts, with its end.  At each choice
the first way is taken by which the set can still be reached, and repeating comes before going on. -/
def path (t : Subject) : Nat → Regex → Nat → Places → Option (Nat × Groups)
  | 0, _, _, _ => none
  | fuel + 1, r, i, e =>
    let both (a b : Regex) (middle : Places) : Option (Nat × Groups) := do
      let (k, g) ← path t fuel a i middle
      let (j, h) ← path t fuel b k e
      return (j, h ++ g)
    match r with
    | .sequence a b => both a b (begins t b e)
    | .either a b => if (begins t a e).has i then path t fuel a i e else path t fuel b i e
    | .group index r => (path t fuel r i e).map fun (j, g) => (j, g ++ [(index, i, j)])
    | .repeated r least most =>
        let rest := Regex.repeated r (least - 1) (most.map (· - 1))
        if least > 0 then both r rest (begins t rest e)
        else if most = some 0 then if e.has i then some (i, []) else none
        else if r.isStep && most.isNone then
          (farthest t r e (t.size + 2) i none).map fun j => (j, [])
        else
          -- Going round once more has to lead on.
          let middle := (begins t rest e).after i
          if (begins t r middle).has i then both r rest middle
          else if e.has i then some (i, []) else none
    | r =>
        match t.stepAt r i with
        | some k => if e.has k then some (k, []) else none
        | none => none

/-- All ways to match a node at a place, in the order in which they are tried, each with what
follows it; for expressions that refer back.  The longest result is kept. -/
def follow (t : Subject) (fuel : Nat) (r : Regex) (i : Nat) (groups : Groups)
    (next : Nat → Groups → Option (Nat × Groups)) : Option (Nat × Groups) :=
  let longer (a b : Option (Nat × Groups)) : Option (Nat × Groups) :=
    match a, b with
    | some (m, g), some (n, h) => if n > m then some (n, h) else some (m, g)
    | some x, none | none, some x => some x
    | none, none => none
  match fuel with
  | 0 => none
  | fuel + 1 =>
    match r with
    | .sequence a b => follow t fuel a i groups fun k g => follow t fuel b k g next
    | .either a b => longer (follow t fuel a i groups next) (follow t fuel b i groups next)
    | .group index r => follow t fuel r i groups fun k g => next k ((index, i, k) :: g)
    | .again index =>
        match groups.lookup index with
        | none => none
        | some (a, b) =>
            let size := b - a
            let same := (List.range size).all fun n =>
              match t.chars[a + n]?, t.chars[i + n]? with
              | some c, some d => t.rules.casing.same c d
              | _, _ => false
            if same then next (i + size) groups else none
    | .repeated r least most =>
        let once := if most = some 0 then none
          else follow t fuel r i groups fun k g =>
            if k > i || least > 0 then
              follow t fuel (.repeated r (least - 1) (most.map (· - 1))) k g next
            else none
        if least = 0 then longer once (next i groups) else once
    | r =>
        match t.stepAt r i with
        | some k => next k groups
        | none => none

/-- The number of nodes, which with the length of a text bounds how deep a match nests. -/
def weight : Regex → Nat
  | .sequence a b | .either a b => a.weight + b.weight + 1
  | .group _ r => r.weight + 1
  | .repeated r least most => (least + most.getD 0 + 2) * (r.weight + 1)
  | _ => 1

def depthFor (t : Subject) (r : Regex) : Nat := (r.weight + 2) * (t.size + 2)

def matchAt (t : Subject) (r : Regex) (i : Nat) : Option (Nat × Groups) :=
  if r.refersBack then
    follow t (depthFor t r) r i [] fun k g => some (k, g)
  else match ends t r [i] with
    | [] => none
    | j :: _ =>
        if r.groupCount = 0 then some (j, [])
        else some (j, ((path t (depthFor t r) r i (.single t.size j)).map Prod.snd).getD [])

/-- A match: where it begins and ends, and what the groups matched. -/
structure Match where
  first : Nat
  last : Nat
  groups : Groups
  deriving Repr

/-- Looks for a match from a place on; fuel bounds how many places are tried. -/
def searchFrom (t : Subject) (r : Regex) (i : Nat) : Nat → Option Match
  | 0 => none
  | fuel + 1 =>
      match matchAt t r i with
      | some (j, groups) => some ⟨i, j, groups⟩
      | none => searchFrom t r (i + 1) fuel

def find? (t : Subject) (r : Regex) (start : Nat) : Option Match :=
  searchFrom t r start (t.size + 1 - start)

def Subject.part (t : Subject) (i j : Nat) : List Char := (t.chars.extract i j).toList

def Match.group? (m : Match) (t : Subject) (index : Nat) : Option (List Char) :=
  if index = 0 then some (t.part m.first m.last)
  else (m.groups.lookup index).map fun (i, j) => t.part i j

end Regex

end Conformance
