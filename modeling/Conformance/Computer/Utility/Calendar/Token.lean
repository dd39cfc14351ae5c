import Conformance.Computer.Utility.Format

/-!
# The parts of dates in words

A date in words is a list of numbers, names and marks.  Names of months and days may be shortened to
three letters, units may stand in the plural, and what stands in parentheses says nothing.
-/

namespace Conformance

namespace Utility

namespace Calendar

/-- A length of time: the parts that depend on the calendar, and the rest. -/
structure Span where
  months : Int
  days : Int
  seconds : Int
  nanos : Int
  deriving DecidableEq, Repr

namespace Span

def zero : Span := ⟨0, 0, 0, 0⟩

def times (n : Int) (s : Span) : Span := ⟨n * s.months, n * s.days, n * s.seconds, n * s.nanos⟩

def add (s t : Span) : Span :=
  ⟨s.months + t.months, s.days + t.days, s.seconds + t.seconds, s.nanos + t.nanos⟩

end Span

inductive Token where
  | number (value digits : Nat)
  | signed (value : Int) (digits : Nat)
  | fraction (hasSign : Bool) (seconds : Int) (nanos : Nat)
  | half (afternoon : Bool)
  | month (n : Nat)
  | weekday (n : Nat)
  | zone (ahead : Int)
  | summerZone (ahead : Int)
  | summer
  | unit (length : Span)
  | shift (days : Int)
  | ordinal (n : Int)
  | direction (sign : Int)
  | between
  | mark (c : Char)
  | unknown
  deriving DecidableEq, Repr

/-- Names of zones with the half hours that they lie ahead of the first meridian. -/
def zones : List (String × Int) :=
  [("gmt", 0), ("ut", 0), ("utc", 0), ("wet", 0), ("art", -6), ("brt", -6), ("nst", -7),
    ("ast", -8), ("clt", -8), ("est", -10), ("cst", -12), ("mst", -14), ("pst", -16),
    ("akst", -18), ("hst", -20), ("hast", -20), ("sst", -24), ("wat", 2), ("cet", 2), ("met", 2),
    ("mez", 2), ("eet", 4), ("cat", 4), ("sast", 4), ("eat", 6), ("msk", 6), ("ist", 11),
    ("sgt", 16), ("kst", 18), ("jst", 18), ("gst", 20), ("nzst", 24)]

/-- Names of zones in summer, with the half hours that they lie ahead in winter. -/
def summerZones : List (String × Int) :=
  [("west", 0), ("bst", 0), ("brst", -6), ("ndt", -7), ("adt", -8), ("clst", -8), ("edt", -10),
    ("cdt", -12), ("mdt", -14), ("pdt", -16), ("akdt", -18), ("hadt", -20), ("cest", 2),
    ("mest", 2), ("mesz", 2), ("eest", 4), ("msd", 6), ("nzdt", 24)]

def units : List (String × Span) :=
  [("year", ⟨12, 0, 0, 0⟩), ("month", ⟨1, 0, 0, 0⟩), ("fortnight", ⟨0, 14, 0, 0⟩),
    ("week", ⟨0, 7, 0, 0⟩), ("day", ⟨0, 1, 0, 0⟩), ("hour", ⟨0, 0, 3600, 0⟩),
    ("minute", ⟨0, 0, 60, 0⟩), ("min", ⟨0, 0, 60, 0⟩), ("second", ⟨0, 0, 1, 0⟩),
    ("sec", ⟨0, 0, 1, 0⟩)]

def relativeWords : List (String × Token) :=
  [("tomorrow", .shift 1), ("yesterday", .shift (-1)), ("today", .shift 0), ("now", .shift 0),
    ("last", .ordinal (-1)), ("this", .ordinal 0), ("next", .ordinal 1), ("first", .ordinal 1),
    ("third", .ordinal 3), ("fourth", .ordinal 4), ("fifth", .ordinal 5), ("sixth", .ordinal 6),
    ("seventh", .ordinal 7), ("eighth", .ordinal 8), ("ninth", .ordinal 9), ("tenth", .ordinal 10),
    ("eleventh", .ordinal 11), ("twelfth", .ordinal 12), ("ago", .direction (-1)),
    ("hence", .direction 1)]

/-- The hours that a zone with a letter for its name lies ahead: from `a` on to the east, from `n` on
to the west, and `j` for the place itself. -/
def letterZone (letter : Char) : Int :=
  let n : Int := letter.toNat - 'a'.toNat
  if letter == 'z' || letter == 'j' then 0
  else if letter < 'j' then n + 1
  else if letter < 'n' then n
  else 12 - n

def lookUp {α : Type} (table : List (String × α)) (word : Octets) : Option α :=
  (table.find? fun e => e.1.toList = word).map Prod.snd

def wordToken (word : Octets) : Token :=
  let stem := word.take 3
  let isShort := word.length = 3 || (word.length = 4 && word.getLast? == some '.')
  let lower (s : String) : Octets := s.toList.map Char.toLower
  let named (names : List String) (others : List (String × Nat)) : Option Nat :=
    if isShort then names.findIdx? fun n => (lower n).take 3 = stem
    else (names.findIdx? fun n => lower n = word).or (lookUp others word)
  let zone? (word : Octets) : Option Token :=
    ((lookUp zones word).map fun h => Token.zone (h * 1800)).or
      ((lookUp summerZones word).map fun h => .summerZone (h * 1800))
  let halves : List (String × Bool) :=
    [("am", false), ("a.m.", false), ("pm", true), ("p.m.", true)]
  let unit? (word : Octets) : Option Token := (lookUp units word).map .unit
  let singular := if word.getLast? == some 's' then word.dropLast else word
  let letter? : Option Token := match word with
    | ['t'] => some .between
    | [letter] => some (.zone (letterZone letter * 3600))
    | _ => none
  ((lookUp halves word).map Token.half)
    |>.or ((named Format.months [("sept", 8)]).map fun n => .month (n + 1))
    |>.or ((named Format.weekdays [("tues", 2), ("wednes", 3), ("thur", 4), ("thurs", 4)]).map
      .weekday)
    |>.or (zone? word)
    |>.or (if word = "dst".toList then some .summer else none)
    |>.or (unit? word)
    |>.or (unit? singular)
    |>.or (lookUp relativeWords word)
    |>.or letter?
    |>.or (zone? (word.filter (· != '.')))
    |>.getD .unknown

def afterComment (depth : Nat) : Octets → Octets
  | [] => []
  | '(' :: rest => afterComment (depth + 1) rest
  | ')' :: rest => if depth ≤ 1 then rest else afterComment (depth - 1) rest
  | _ :: rest => afterComment depth rest

def numberToken (sign : Option Char) (s : Octets) : Token × Octets :=
  let digits := s.takeWhile Char.isDigit
  let value := (readNat? digits).getD 0
  let negative := sign == some '-'
  let part := match s.drop digits.length with
    | point :: d :: rest =>
        if (point == '.' || point == ',') && d.isDigit then (d :: rest).takeWhile Char.isDigit else []
    | _ => []
  if part.isEmpty then
    let token := match sign with
      | none => Token.number value digits.length
      | some _ => .signed (if negative then -(value : Int) else value) digits.length
    (token, s.drop digits.length)
  else
    let nanos := (readNat? ((part ++ List.replicate 9 '0').take 9)).getD 0
    let beyond := (part.drop 9).any (· != '0')
    let rest := s.drop (digits.length + 1 + part.length)
    -- Times are rounded down.
    if negative then
      let nanos := if beyond then nanos + 1 else nanos
      if nanos = 0 then (.fraction true (-(value : Int)) 0, rest)
      else (.fraction true (-(value : Int) - 1) (1000000000 - nanos), rest)
    else (.fraction sign.isSome value nanos, rest)

/-- The tokens of a text in small letters; fuel bounds their number. -/
def tokens (fuel : Nat) (s : Octets) : List Token :=
  match fuel, s.dropWhile isSpace with
  | 0, _ | _, [] => []
  | fuel + 1, ch :: rest =>
      if ch.isDigit then
        let (t, rest) := numberToken none (ch :: rest)
        t :: tokens fuel rest
      else if ch == '-' || ch == '+' then
        let digits := rest.dropWhile isSpace
        if digits.head?.any Char.isDigit then
          let (t, rest) := numberToken (some ch) digits
          t :: tokens fuel rest
        else tokens fuel rest
      else if ch.isAlpha then
        let word := (ch :: rest).takeWhile fun d => d.isAlpha || d == '.'
        wordToken word :: tokens fuel ((ch :: rest).drop word.length)
      else if ch == '(' then tokens fuel (afterComment 0 (ch :: rest))
      else .mark ch :: tokens fuel rest

end Calendar

end Utility

end Conformance
