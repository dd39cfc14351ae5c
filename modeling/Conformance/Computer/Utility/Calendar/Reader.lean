import Conformance.Computer.Utility.Calendar.Token

/-!
# Dates in words

The time that a text means.  It says a day, a time of the day and a zone, each at most once, and any
number of lengths of time that are added.  Of what it does not say, the day is the present one, and
the time of the day is its beginning, unless only lengths of time are given.
-/

namespace Conformance

namespace Utility

namespace Calendar

/-- The halves of a day by which its hours are counted. -/
inductive Half where
  | whole
  | morning
  | afternoon
  deriving DecidableEq, Repr

/-- What a text has said so far, and how often it has said a thing. -/
structure Moment where
  year : Int
  yearDigits : Nat
  month : Int
  day : Int
  hour : Nat
  minute : Nat
  second : Nat
  nanos : Nat
  half : Half
  ordinal : Int
  weekday : Nat
  zone : Int
  added : Span
  dates : Nat
  times : Nat
  weekdays : Nat
  zones : Nat
  relative : Bool

namespace Moment

def atDate (m : Moment) (year : Int) (digits : Nat) (month day : Int) : Moment :=
  { m with year, yearDigits := digits, month, day, dates := m.dates + 1 }

def atDay (m : Moment) (month day : Int) : Moment := { m with month, day, dates := m.dates + 1 }

def atTime (m : Moment) (hour minute second nanos : Nat) (half : Half) : Moment :=
  { m with hour, minute, second, nanos, half, times := m.times + 1 }

def inZone (m : Moment) (ahead : Int) : Moment := { m with zone := ahead, zones := m.zones + 1 }

def plus (m : Moment) (s : Span) : Moment := { m with added := m.added.add s, relative := true }

/-- Takes in a number that stands alone: a year, a day with its year and month, or a time. -/
def withNumber (m : Moment) (value digits : Nat) : Moment :=
  if m.dates > 0 && m.yearDigits = 0 && !m.relative && (m.times > 0 || digits > 2) then
    { m with year := value, yearDigits := digits }
  else if digits > 4 then
    m.atDate (value / 10000 : Nat) (digits - 4) (value / 100 % 100 : Nat) (value % 100 : Nat)
  else if digits ≤ 2 then m.atTime value 0 0 0 .whole
  else m.atTime (value / 100) (value % 100) 0 0 .whole

end Moment

/-- How far a zone lies ahead that is given by a number, and perhaps by minutes behind a colon. -/
def offset? (value : Int) (digits : Nat) (minutes : Option Nat) : Option Int :=
  let total : Int := match minutes with
    | some k => value * 60 + (if value < 0 then -(k : Int) else k)
    | none =>
        let value := if digits ≤ 2 then value * 100 else value
        Int.tdiv value 100 * 60 + Int.tmod value 100
  if -1440 ≤ total && total ≤ 1440 then some (total * 60) else none

/-- Reads what may follow the number of an offset: minutes behind a colon. -/
def minutes? : List Token → Option (Option Nat × List Token)
  | .mark ':' :: .number k _ :: rest => some (some k, rest)
  | .mark ':' :: _ => none
  | rest => some (none, rest)

def readOffset (m : Moment) : List Token → Option (Moment × List Token)
  | .signed v digits :: rest => do
      let (k, rest) ← minutes? rest
      return (m.inZone (← offset? v digits k), rest)
  | rest => some (m, rest)

def halfOf (afternoon : Bool) : Half := if afternoon then .afternoon else .morning

/-- Reads a time whose hour has been read; `plain` says that no half of the day may follow. -/
def readTime (m : Moment) (plain : Bool) (hour : Nat) :
    List Token → Option (Moment × List Token)
  | .mark ':' :: .number k _ :: rest =>
      let finish (second nanos : Nat) : List Token → Option (Moment × List Token)
        | .half p :: rest =>
            if plain then none else some (m.atTime hour k second nanos (halfOf p), rest)
        | rest => readOffset (m.atTime hour k second nanos .whole) rest
      match rest with
      | .mark ':' :: .number s _ :: rest => finish s 0 rest
      | .mark ':' :: .fraction false s nanos :: rest => finish s.toNat nanos rest
      | .mark ':' :: _ => none
      | rest => finish 0 0 rest
  | .signed v digits :: rest => readOffset (m.atTime hour 0 0 0 .whole) (.signed v digits :: rest)
  | _ => none

def withDirection (m : Moment) (s : Span) : List Token → Moment × List Token
  | .direction sign :: rest => (m.plus (s.times sign), rest)
  | rest => (m.plus s, rest)

def readZone (m : Moment) (ahead : Int) : List Token → Option (Moment × List Token)
  | .summer :: rest => some (m.inZone (ahead + 3600), rest)
  | .signed v _ :: .unit s :: rest => some ((m.inZone ahead).plus (s.times v), rest)
  | .signed v digits :: rest => do
      let (k, rest) ← minutes? rest
      return (m.inZone (ahead + (← offset? v digits k)), rest)
  | rest => some (m.inZone ahead, rest)

def readNumber (m : Moment) (n digits : Nat) (rest : List Token) :
    Option (Moment × List Token) :=
  match rest with
  | .half p :: rest => some (m.atTime n 0 0 0 (halfOf p), rest)
  | .mark ':' :: _ => readTime m false n rest
  | .mark '/' :: .number b _ :: .mark '/' :: .number c k :: rest =>
      if digits ≥ 4 then some (m.atDate n digits b c, rest) else some (m.atDate c k n b, rest)
  | .mark '/' :: .number _ _ :: .mark '/' :: _ => none
  | .mark '/' :: .number b _ :: rest => some (m.atDay n b, rest)
  | .mark '/' :: _ => none
  | .month k :: .signed y d :: rest => some (m.atDate (-y) d k n, rest)
  | .month k :: .number y d :: rest => some (m.atDate y d k n, rest)
  | .month k :: rest => some (m.atDay k n, rest)
  | .signed a _ :: .signed b _ :: rest =>
      let m := m.atDate n digits (-a) (-b)
      match rest with
      | .between :: .number hour _ :: rest => readTime m true hour rest
      | .between :: _ => none
      | rest => some (m, rest)
  | .signed v _ :: .unit s :: rest => some ((m.withNumber n digits).plus (s.times v), rest)
  | .signed _ _ :: _ => readTime m false n rest
  | .weekday d :: rest => some ({ m with ordinal := n, weekday := d, weekdays := m.weekdays + 1 }, rest)
  | .unit s :: rest => some (withDirection m (s.times n) rest)
  | rest => some (m.withNumber n digits, rest)

def readItem (m : Moment) : List Token → Option (Moment × List Token)
  | .number n digits :: rest => readNumber m n digits rest
  | .month k :: .signed d _ :: .signed y digits :: rest => some (m.atDate (-y) digits k (-d), rest)
  | .month _ :: .signed _ _ :: _ => none
  | .month k :: .number d _ :: .mark ',' :: .number y digits :: rest =>
      some (m.atDate y digits k d, rest)
  | .month _ :: .number _ _ :: .mark ',' :: _ => none
  | .month k :: .number d _ :: rest => some (m.atDay k d, rest)
  | .weekday d :: rest =>
      let m := { m with ordinal := 0, weekday := d, weekdays := m.weekdays + 1 }
      match rest with
      | .mark ',' :: rest => some (m, rest)
      | rest => some (m, rest)
  | .ordinal n :: .weekday d :: rest =>
      some ({ m with ordinal := n, weekday := d, weekdays := m.weekdays + 1 }, rest)
  | .ordinal n :: .unit s :: rest => some (withDirection m (s.times n) rest)
  | .unit s :: rest => some (withDirection m s rest)
  | .signed v _ :: .unit s :: rest => some (withDirection m (s.times v) rest)
  | .fraction _ v nanos :: .unit s :: rest =>
      if s = ⟨0, 0, 1, 0⟩ then some (withDirection m ⟨0, 0, v, nanos⟩ rest) else none
  | .shift days :: rest => some (m.plus ⟨0, days, 0, 0⟩, rest)
  | .zone ahead :: rest => readZone m ahead rest
  | .between :: .signed v _ :: .unit s :: rest =>
      some ((m.inZone (-25200)).plus (s.times v), rest)
  | .between :: rest => some (m.inZone (-25200), rest)
  | .summerZone ahead :: rest => some (m.inZone (ahead + 3600), rest)
  | _ => none

/-- Reads all items; fuel bounds their number. -/
def readItems (fuel : Nat) (m : Moment) (items : List Token) : Option Moment :=
  match fuel, items with
  | _, [] => some m
  | 0, _ => none
  | fuel + 1, items => (readItem m items).bind fun (m, rest) => readItems fuel m rest

def isDay (d : Format.Day) : Bool :=
  1 ≤ d.month && d.month ≤ 12 && 1 ≤ d.day && Format.Day.ofNumber d.number = d

def Half.hour? (half : Half) (n : Nat) : Option Nat :=
  match half with
  | .whole => if n < 24 then some n else none
  | .morning => if 0 < n && n < 12 then some n else if n = 12 then some 0 else none
  | .afternoon => if 0 < n && n < 12 then some (n + 12) else if n = 12 then some 12 else none

def fullYear (year : Int) (digits : Nat) : Int :=
  if 0 ≤ year && digits = 2 then year + (if year < 69 then 2000 else 1900) else year

def Moment.resolve (m : Moment) : Option (Int × Int) := do
  if m.times > 1 || m.dates > 1 || m.weekdays > 1 || m.zones > 1 then none
  let isTimed := m.times > 0 || (m.relative && m.dates = 0 && m.weekdays = 0)
  let (second, nanos) ←
    if isTimed then do
      let hour ← m.half.hour? m.hour
      if m.minute ≥ 60 || m.second ≥ 60 then none
      pure ((hour * 3600 + m.minute * 60 + m.second : Nat), m.nanos)
    else pure (0, 0)
  let day : Format.Day := ⟨fullYear m.year m.yearDigits, m.month.toNat, m.day.toNat⟩
  if !isDay day then none
  let ahead : Int :=
    if m.weekdays > 0 && m.dates = 0 then
      let now := (day.number + 4) % 7
      let later := if m.ordinal > 0 && now != (m.weekday : Int) then m.ordinal - 1 else m.ordinal
      ((m.weekday : Int) - now) % 7 + 7 * later
    else 0
  let day := Format.Day.ofNumber (day.number + ahead)
  let months := day.year * 12 + (day.month - 1 : Nat) + m.added.months
  let first : Format.Day := ⟨Int.fdiv months 12, (Int.fmod months 12).toNat + 1, 1⟩
  let number := first.number + (day.day - 1 : Nat) + m.added.days
  let nanos := (nanos : Int) + m.added.nanos
  return (number * 86400 + second - (if m.zones > 0 then m.zone else 0) + m.added.seconds +
    Int.fdiv nanos 1000000000, Int.fmod nanos 1000000000)

def withoutZone (s : Octets) : Octets :=
  match s with
  | 't' :: 'z' :: '=' :: '"' :: rest => (rest.dropWhile (· != '"')).drop 1
  | s => s

def readDate? (nowMicros : Nat) (s : Octets) : Option (Int × Nat) :=
  let s := withoutZone ((s.dropWhile isSpace).map Char.toLower)
  match s with
  | '@' :: number =>
      match tokens (number.length + 1) number with
      | [.number n _] => some (n, 0)
      | [.signed n _] => some (n, 0)
      | [.fraction _ n nanos] => some (n, nanos)
      | _ => none
  | s =>
      let now : Int := ((nowMicros / 1000000 : Nat) : Int)
      let day := Format.Day.ofNumber (Int.fdiv now 86400)
      let second := (Int.fmod now 86400).toNat
      let start : Moment :=
        { year := day.year, yearDigits := 0, month := day.month, day := day.day
          hour := second / 3600, minute := second / 60 % 60, second := second % 60
          nanos := nowMicros % 1000000 * 1000
          half := .whole, ordinal := 0, weekday := 0, zone := 0, added := .zero
          dates := 0, times := 0, weekdays := 0, zones := 0, relative := false }
      let items := tokens (s.length + 1) s
      ((readItems (items.length + 1) start items).bind Moment.resolve).map fun (n, nanos) =>
        (n, nanos.toNat)

end Calendar

end Utility

end Conformance
