import Conformance.Computer.Text.Casing
import Conformance.Computer.Text.Octets

/-!
# Patterns

Patterns of the shell match whole texts.  A star stands for any text, a question mark for any
character, and brackets for a choice of characters; quoted characters stand for themselves.
-/

namespace Conformance

/-- A choice of characters: single ones, ranges, and named classes. -/
inductive CharRange where
  | span (low high : Char)
  | named (name : Octets)
  deriving DecidableEq, Repr

namespace CharRange

/-- Letters beyond ASCII: all characters from U+00C0 on count, but for the signs of multiplication
and division, blanks, general punctuation, and what stands for stray bytes. -/
def isWideLetter (c : Char) : Bool :=
  let n := c.toNat
  (n == 0xAA || n == 0xB5 || n == 0xBA || (0x100 ≤ n && n < Octets.strayBase) ||
    (0xC0 ≤ n && n ≤ 0xFF && n != 0xD7 && n != 0xF7)) && !(0x2000 ≤ n && n ≤ 0x206F) && n != 0x3000

def inClass (name : Octets) (c : Char) : Bool :=
  if name = "alpha".toList then c.isAlpha || isWideLetter c
  else if name = "digit".toList then c.isDigit
  else if name = "alnum".toList then c.isAlphanum || isWideLetter c
  else if name = "upper".toList then c.isUpper
  else if name = "lower".toList then c.isLower
  else if name = "space".toList then
    c == ' ' || ('\t' ≤ c && c ≤ '\r')
  else if name = "blank".toList then c == ' ' || c == '\t'
  else if name = "punct".toList then '!' ≤ c && c ≤ '~' && !c.isAlphanum
  else if name = "print".toList then ' ' ≤ c && c ≤ '~'
  else if name = "graph".toList then '!' ≤ c && c ≤ '~'
  else if name = "cntrl".toList then c < ' ' || c == '\x7f'
  else if name = "xdigit".toList then
    c.isDigit || ('a' ≤ c && c ≤ 'f') || ('A' ≤ c && c ≤ 'F')
  else false

def has (r : CharRange) (c : Char) : Bool :=
  match r with
  | span low high => low ≤ c && c ≤ high
  | named name => inClass name c

def className? (s : Octets) : Option (Octets × Nat) :=
  let name := s.takeWhile (· != ':')
  if (s.drop name.length).take 2 = [':', ']'] && name.all Char.isAlpha then
    some (name, name.length + 2)
  else none

/-- A single character that stands between a bracket with an equals sign or a dot and its
counterpart. -/
def collating? (mark : Char) (s : Octets) : Option (Char × Nat) :=
  match s with
  | c :: a :: b :: _ => if a == mark && b == ']' then some (c, 3) else none
  | _ => none

/-- Reads the inside of brackets up to the closing one, which may come first to stand for itself. -/
def readSet (first : Bool) (ranges : List CharRange) : Octets → Option (List CharRange × Octets)
  | [] => none
  | [c] => if c == ']' && !first then some (ranges, []) else none
  | c :: d :: rest =>
      if c == ']' && !first then some (ranges, d :: rest)
      else match (if c == '[' && d == ':' then className? rest else none),
          (if c == '[' && (d == '=' || d == '.') then collating? d rest else none) with
        | some (name, size), _ => readSet false (ranges ++ [named name]) (rest.drop size)
        | none, some (e, size) => readSet false (ranges ++ [span e e]) (rest.drop size)
        | none, none =>
            match d, rest with
            | '-', high :: after =>
                if high == ']' then readSet false (ranges ++ [span c c]) ('-' :: high :: after)
                else readSet false (ranges ++ [span c high]) after
            | d, rest => readSet false (ranges ++ [span c c]) (d :: rest)
termination_by s => s.length
decreasing_by
  all_goals simp_all only [List.length_drop, List.length_cons]
  all_goals grind

end CharRange

namespace Shell

inductive PatternItem where
  | one (c : Char)
  | anyOne
  | anyRun
  | oneOf (negated : Bool) (ranges : List CharRange)
  /-- One of some patterns: once, perhaps, any number of times, at least once, or none of them, as
  the mark in front says. -/
  | choice (mark : Char) (patterns : List (List PatternItem))
  deriving Repr

abbrev Marked := List (Char × Bool)

namespace Pattern

structure Rules where
  alternatives : Bool
  casing : Text.Casing
  deriving DecidableEq, Repr

def Rules.plain : Rules := ⟨false, .exact⟩

def brackets? (s : Marked) : Option (PatternItem × Marked) :=
  let plain := s.map fun (c, quoted) => if quoted && (c == ']' || c == '-') then '\x00' else c
  let (negated, inner) := match plain with
    | '!' :: rest => (true, rest)
    | '^' :: rest => (true, rest)
    | rest => (false, rest)
  match CharRange.readSet true [] inner with
  | none => none
  | some (ranges, rest) =>
      let inside := s.take (s.length - rest.length)
      -- A quoted bracket or dash inside stands for itself.
      let quoted := inside.filterMap fun (c, quoted) =>
        if quoted && (c == ']' || c == '-') then some (CharRange.span c c) else none
      some (.oneOf negated (ranges.filter (· != .span '\x00' '\x00') ++ quoted),
        s.drop inside.length)

def isMark (c : Char) : Bool := c == '?' || c == '*' || c == '+' || c == '@' || c == '!'

def alternatives? (depth : Nat) (current : Marked) (done : List Marked) :
    Marked → Option (List Marked × Marked)
  | [] => none
  | ('(', false) :: rest => alternatives? (depth + 1) (('(', false) :: current) done rest
  | (')', false) :: rest =>
      match depth with
      | 0 => some ((current.reverse :: done).reverse, rest)
      | depth + 1 => alternatives? depth ((')', false) :: current) done rest
  | ('|', false) :: rest =>
      if depth = 0 then alternatives? depth [] (current.reverse :: done) rest
      else alternatives? depth (('|', false) :: current) done rest
  | c :: rest => alternatives? depth (c :: current) done rest

/-- Reads a pattern; fuel bounds the number of its items and how deep they nest. -/
def ofMarked (rules : Rules) (fuel : Nat) (s : Marked) : List PatternItem :=
  match fuel with
  | 0 => []
  | fuel + 1 =>
    match s with
    | [] => []
    | (c, true) :: rest => .one c :: ofMarked rules fuel rest
    | (c, false) :: rest =>
        let group? := match rest with
          | ('(', false) :: inner =>
              if rules.alternatives && isMark c then alternatives? 0 [] [] inner else none
          | _ => none
        match group?, c, rest with
        | some (texts, after), _, _ =>
            .choice c (texts.map (ofMarked rules fuel)) :: ofMarked rules fuel after
        | none, '*', rest => .anyRun :: ofMarked rules fuel rest
        | none, '?', rest => .anyOne :: ofMarked rules fuel rest
        | none, '[', rest =>
            match brackets? rest with
            | some (item, rest) => item :: ofMarked rules fuel rest
            | none => .one '[' :: ofMarked rules fuel rest
        | none, '\\', (d, _) :: rest => .one d :: ofMarked rules fuel rest
        | none, c, rest => .one c :: ofMarked rules fuel rest

def parse (rules : Rules) (s : Marked) : List PatternItem := ofMarked rules (s.length + 1) s

def suffixes : Octets → List Octets
  | [] => [[]]
  | c :: rest => (c :: rest) :: suffixes rest

def distinct (rests : List Octets) : List Octets :=
  rests.foldl (fun kept s => if kept.any (·.length = s.length) then kept else kept ++ [s]) []

/-- Repeats a step on remainders until nothing new comes; fuel bounds the number of steps. -/
def closure (step : Octets → List Octets) (fuel : Nat) (found fresh : List Octets) :
    List Octets :=
  match fuel, fresh with
  | 0, _ | _, [] => found
  | fuel + 1, fresh =>
      let next := (distinct (fresh.flatMap step)).filter fun s =>
        !found.any (·.length = s.length)
      closure step fuel (found ++ next) next

def isIn (rules : Rules) (ranges : List CharRange) (c : Char) : Bool :=
  (rules.casing.forms c).any fun d => ranges.any (·.has d)

mutual

def leftBy (rules : Rules) : PatternItem → Octets → List Octets
  | .one c, s =>
      match s with
      | d :: rest => if rules.casing.same c d then [rest] else []
      | [] => []
  | .anyOne, s =>
      match s with
      | _ :: rest => [rest]
      | [] => []
  | .anyRun, s => suffixes s
  | .oneOf negated ranges, s =>
      match s with
      | d :: rest => if isIn rules ranges d != negated then [rest] else []
      | [] => []
  | .choice mark patterns, s =>
      let once (s : Octets) : List Octets := distinct (leftByAny rules patterns s)
      if mark == '@' then once s
      else if mark == '?' then distinct (s :: once s)
      else if mark == '*' then closure once (s.length + 1) [s] [s]
      else if mark == '+' then distinct ((once s).flatMap fun rest =>
        closure once (s.length + 1) [rest] [rest])
      else
        let matched := once s
        (suffixes s).filter fun rest => !matched.any (·.length = rest.length)

def leftByAny (rules : Rules) : List (List PatternItem) → Octets → List Octets
  | [], _ => []
  | p :: rest, s => leftByAll rules p s ++ leftByAny rules rest s

def leftByAll (rules : Rules) : List PatternItem → Octets → List Octets
  | [], s => [s]
  | item :: items, s => distinct ((leftBy rules item s).flatMap fun rest =>
      leftByAll rules items rest)

end

/-! ## Patterns without alternatives -/

/-- What may be left of a pattern before anything is matched: a star may match nothing. -/
def starts : List PatternItem → List (List PatternItem)
  | .anyRun :: items => (.anyRun :: items) :: starts items
  | items => [items]

def distinctPatterns (patterns : List (List PatternItem)) : List (List PatternItem) :=
  patterns.foldl
    (fun kept p => if kept.any (·.length == p.length) then kept else kept ++ [p]) []

def advance (rules : Rules) (patterns : List (List PatternItem)) (c : Char) :
    List (List PatternItem) :=
  distinctPatterns (patterns.flatMap fun p =>
    match p with
    | .anyRun :: _ => starts p
    | .one d :: items => if rules.casing.same d c then starts items else []
    | .anyOne :: items => starts items
    | .oneOf negated ranges :: items =>
        if isIn rules ranges c != negated then starts items else []
    | _ => [])

/-- The lengths of the beginnings of a text that patterns match, longest first, where some
characters have been passed already. -/
def ends (rules : Rules) (patterns : List (List PatternItem)) (passed : Nat) (found : List Nat)
    (s : List Char) : List Nat :=
  let found := if patterns.any List.isEmpty then passed :: found else found
  match s with
  | [] => found
  | c :: rest =>
      match advance rules patterns c with
      | [] => found
      | patterns => ends rules patterns (passed + 1) found rest

def acceptsPlain (rules : Rules) (items : List PatternItem) (s : List Char) : Bool :=
  (s.foldl (advance rules) (starts items)).any List.isEmpty

def isChoice : PatternItem → Bool
  | .choice .. => true
  | _ => false

def accepts (rules : Rules) (items : List PatternItem) (s : List Char) : Bool :=
  if items.any isChoice then (leftByAll rules items s).any List.isEmpty
  else acceptsPlain rules items s

def beginnings (rules : Rules) (items : List PatternItem) (s : List Char) : List Nat :=
  if items.any isChoice then
    ((leftByAll rules items s).map fun rest => s.length - rest.length).mergeSort (· ≥ ·)
  else ends rules (starts items) 0 [] s

def endings (rules : Rules) (items : List PatternItem) (s : List Char) : List Nat :=
  if items.any isChoice then
    ((List.range (s.length + 1)).reverse).filter fun n =>
      accepts rules items (s.drop (s.length - n))
  else ends rules (starts items.reverse) 0 [] s.reverse

/-- A pattern that holds none of the special characters stands for one name only. -/
def isLiteral (rules : Rules) (s : Marked) : Bool :=
  s.all (fun (c, quoted) => quoted || !(c == '*' || c == '?' || c == '[')) &&
    !(rules.alternatives && (s.zip (s.drop 1)).any fun ((c, q), (d, r)) =>
      !q && !r && isMark c && d == '(')

end Pattern

end Shell

end Conformance
