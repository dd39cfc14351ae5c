import Conformance.Computer.Text.Fraction
import Conformance.Computer.Utility.Basic

/-!
# Printing arguments

The commands `echo` and `printf`.  Both shells have them built in, and there are programs of these
names; they differ in the escapes that they read and in what they do about bad arguments.
-/

namespace Conformance

namespace Utility

namespace Format

inductive Voice where
  | plainShell
  | extendedShell
  | program
  deriving DecidableEq, Repr

def isOctal (c : Char) : Bool := '0' ≤ c && c ≤ '7'

def isHexadecimal (c : Char) : Bool :=
  c.isDigit || ('a' ≤ c && c ≤ 'f') || ('A' ≤ c && c ≤ 'F')

def digitValue (c : Char) : Nat :=
  if c.isDigit then c.toNat - '0'.toNat
  else if c.isAlpha then c.toLower.toNat - 'a'.toNat + 10 else 99

def valueIn (base : Nat) (digits : Octets) : Nat :=
  digits.foldl (fun n c => base * n + digitValue c) 0

/-- The byte that up to `most` octal digits spell, and how many there are. -/
def octal (most : Nat) (s : Octets) : Char × Nat :=
  let digits := (s.take most).takeWhile isOctal
  (Char.ofNat (valueIn 8 digits % 256), digits.length)

def escapeLetter? : Char → Option Char
  | 'a' => some '\x07'
  | 'b' => some '\x08'
  | 'e' => some '\x1b'
  | 'f' => some '\x0c'
  | 'n' => some '\n'
  | 'r' => some '\r'
  | 't' => some '\t'
  | 'v' => some '\x0b'
  | '\\' => some '\\'
  | _ => none

/-- What a backslash and the text behind it stand for. -/
inductive Escape where
  | text (s : Octets) (size : Nat)
  | odd (s : Octets) (size : Nat) (message : String)
  | ends
  | fault (message : Octets)

/-- The bytes for the number of a character, of up to `most` digits. -/
def codedEscape (voice : Voice) (wide : Bool) (letter : Char) (rest : Octets) : Escape :=
  let most := if letter == 'u' then 4 else 8
  let digits := (rest.take most).takeWhile isHexadecimal
  let n := valueIn 16 digits
  match voice with
  | .program =>
      let isBasic := n < 0xA0 && n != 0x24 && n != 0x40 && n != 0x60
      if digits.length < most then .fault "missing hexadecimal number in escape".toList
      else if isBasic || (0xD800 ≤ n && n < 0xE000) then
        .fault ("invalid universal character name \\".toList ++ letter :: digits.map Char.toLower)
      else .text (Octets.ofCode (wide && n < 0x110000) n) (most + 1)
  | _ =>
      if digits.isEmpty then .odd ['\\', letter] 1 ("missing unicode digit for \\" ++ letter.toString)
      else .text (Octets.ofCode wide n) (digits.length + 1)

def hexadecimalEscape (voice : Voice) (rest : Octets) : Escape :=
  let digits := (rest.take 2).takeWhile isHexadecimal
  if !digits.isEmpty then .text [Char.ofNat (valueIn 16 digits)] (digits.length + 1)
  else match voice with
    | .program => .fault "missing hexadecimal number in escape".toList
    | _ => .odd ['\\', 'x'] 1 "missing hex digit for \\x"

/-- What a letter behind a backslash stands for that only some read. -/
def letteredEscape (voice : Voice) (wide : Bool) (c : Char) (rest : Octets) : Escape :=
  if c == 'x' then hexadecimalEscape voice rest
  else if c == 'u' || c == 'U' then codedEscape voice wide c rest
  else if c == '"' then .text [c] 1
  else if voice == .extendedShell && (c == '\'' || c == '?') then .text [c] 1
  else if voice == .extendedShell && c == 'E' then .text ['\x1b'] 1
  else .text ['\\', c] 1

def echoEscape (voice : Voice) (wide : Bool) (s : Octets) : Escape :=
  match s with
  | [] => .text ['\\'] 0
  | 'c' :: _ => .ends
  | '0' :: rest =>
      let (c, size) := octal 3 rest
      .text [c] (size + 1)
  | c :: rest =>
      if isOctal c && voice != .extendedShell then
        let (d, size) := octal 3 s
        .text [d] size
      else match escapeLetter? c, voice with
        | some d, _ => .text [d] 1
        | none, .plainShell => .text ['\\'] 0
        | none, .extendedShell =>
            if c == '"' || c == '\'' || c == '?' then .text ['\\', c] 1
            else letteredEscape voice wide c rest
        | none, .program =>
            if c == 'x' && rest.head?.any isHexadecimal then hexadecimalEscape voice rest
            else .text ['\\', c] 1

def argumentEscape (voice : Voice) (wide : Bool) (s : Octets) : Escape :=
  match s with
  | [] => .text ['\\'] 0
  | 'c' :: _ => .ends
  | '0' :: rest =>
      let (c, size) := octal 3 rest
      .text [c] (size + 1)
  | c :: rest =>
      if isOctal c then
        let (d, size) := octal 3 s
        .text [d] size
      else match escapeLetter? c, voice with
        | some d, _ => .text [d] 1
        | none, .plainShell => .text ['\\'] 0
        | none, .extendedShell =>
            if c == '"' || c == '\'' || c == '?' then .text ['\\', c] 1
            else letteredEscape voice wide c rest
        | none, .program => letteredEscape voice wide c rest

def formatEscape (voice : Voice) (wide : Bool) (s : Octets) : Escape :=
  match s with
  | [] => .text ['\\'] 0
  | c :: rest =>
      if isOctal c then
        let (d, size) := octal 3 s
        .text [d] size
      else match escapeLetter? c, voice with
        | some d, _ => .text [d] 1
        | none, .plainShell => .text ['\\'] 0
        | none, voice =>
            if c == 'c' && voice == .program then .ends
            else letteredEscape voice wide c rest

/-- A text whose escapes have been read. -/
structure Unescaped where
  text : Octets
  goesOn : Bool
  remarks : List Octets
  fault : Option Octets

/-- Reads the escapes of a text.  Fuel bounds the length of the text. -/
def unescape (escape : Octets → Escape) (fuel : Nat) (s : Octets) : Unescaped :=
  match fuel, s with
  | 0, _ | _, [] => ⟨[], true, [], none⟩
  | fuel + 1, '\\' :: rest =>
      match escape rest with
      | .ends => ⟨[], false, [], none⟩
      | .fault message => ⟨[], false, [], some message⟩
      | .text t size =>
          let more := unescape escape fuel (rest.drop size)
          { more with text := t ++ more.text }
      | .odd t size message =>
          let more := unescape escape fuel (rest.drop size)
          { more with text := t ++ more.text, remarks := message.toList :: more.remarks }
  | fuel + 1, c :: rest =>
      let more := unescape escape fuel rest
      { more with text := c :: more.text }

/-! ## Echo -/

/-- The words with blanks between them, up to where an escape ends the printing. -/
def echoWords (escape? : Option (Octets → Escape)) : List Octets → Octets × Bool
  | [] => ([], true)
  | word :: rest =>
      let (s, goesOn) := match escape? with
        | some escape =>
            let read := unescape escape (word.length + 1) word
            (read.text, read.goesOn)
        | none => (word, true)
      if !goesOn then (s, false)
      else if rest.isEmpty then (s, true)
      else
        let (more, goesOn) := echoWords escape? rest
        (s ++ ' ' :: more, goesOn)

/-- The options at the front of the arguments: whether a line end follows, and whether escapes are
read. -/
def echoOptions (newline escapes : Bool) : List Octets → Bool × Bool × List Octets
  | ('-' :: c :: letters) :: rest =>
      if (c :: letters).all (fun d => d == 'n' || d == 'e' || d == 'E') then
        let newline := newline && !(c :: letters).contains 'n'
        let escapes := (c :: letters).foldl (fun e d =>
          if d == 'e' then true else if d == 'E' then false else e) escapes
        echoOptions newline escapes rest
      else (newline, escapes, ('-' :: c :: letters) :: rest)
  | rest => (newline, escapes, rest)

def echo (voice : Voice) (wide alwaysEscapes : Bool) (args : List Octets) : Octets :=
  let (newline, escapes, words) :=
    match voice, args with
    | .plainShell, ['-', 'n'] :: words => (false, true, words)
    | .plainShell, words => (true, true, words)
    | _, args => echoOptions true alwaysEscapes args
  let (s, goesOn) := echoWords (if escapes then some (echoEscape voice wide) else none) words
  if newline && goesOn then s ++ ['\n'] else s

/-! ## Conversions -/

/-- How a conversion fills its place. -/
structure Field where
  flags : List Char
  width : Nat
  precision : Option Nat

namespace Field

def has (f : Field) (flag : Char) : Bool := f.flags.contains flag

def pad (f : Field) (s : Octets) : Octets :=
  let missing := spaces (f.width - s.length)
  if f.has '-' then s ++ missing else missing ++ s

def number (f : Field) (zeros : Bool) (sign digits : Octets) : Octets :=
  if zeros && f.has '0' && !f.has '-' then
    sign ++ List.replicate (f.width - sign.length - digits.length) '0' ++ digits
  else f.pad (sign ++ digits)

def signOf (f : Field) (negative : Bool) : Octets :=
  if negative then ['-'] else if f.has '+' then ['+'] else if f.has ' ' then [' '] else []

def digits (f : Field) (s : Octets) : Octets :=
  match f.precision with
  | some 0 => if s = ['0'] then [] else s
  | some n => List.replicate (n - s.length) '0' ++ s
  | none => s

def signed (f : Field) (n : Int) : Octets :=
  f.number f.precision.isNone (f.signOf (n < 0)) (f.digits (Nat.toDigits 10 n.natAbs))

/-- A number without a sign in a base, with the mark of the base if asked for. -/
def unsigned (f : Field) (conversion : Char) (n : Nat) : Octets :=
  let plain := Nat.toDigits (match conversion with
    | 'o' => 8
    | 'x' | 'X' => 16
    | _ => 10) n
  let digits := f.digits (if conversion == 'X' then plain.map Char.toUpper else plain)
  let digits := if conversion == 'o' && f.has '#' && digits.head? != some '0' then '0' :: digits
    else digits
  let mark : Octets := if f.has '#' && n != 0 && (conversion == 'x' || conversion == 'X') then
      ['0', conversion] else []
  f.number f.precision.isNone mark digits

def fraction (f : Field) (conversion : Char) (x : Text.Fraction) : Octets :=
  let style : Text.Fraction.Style := match conversion.toLower with
    | 'e' => .scientific
    | 'g' => .general
    | _ => .fixed
  let body := Text.Fraction.magnitudeText style (f.has '#') (f.precision.getD 6) x
  let body := if conversion.isUpper then body.map Char.toUpper else body
  let isFinite := match x with
    | .finite .. => true
    | _ => false
  f.number isFinite (f.signOf x.isNegative) body

/-- A fraction to base sixteen; the first digit of a number of double width is one, and that of
a wider one is any. -/
def hexFraction (f : Field) (isWide isUpper : Bool) (x : Text.Fraction) : Octets :=
  let shape (s : Octets) : Octets := if isUpper then s.map Char.toUpper else s
  match x with
  | .finite negative mantissa exponent =>
      let body := if isWide then
          Text.Fraction.hexText Text.Fraction.extended 4 (f.has '#') f.precision mantissa exponent
        else Text.Fraction.hexText Text.Fraction.double 1 (f.has '#') f.precision mantissa exponent
      f.number true (f.signOf negative ++ shape ['0', 'x']) (shape body)
  | x => f.fraction (if isUpper then 'F' else 'f') x

end Field

def quotedNumber? (wide : Bool) (s : Octets) : Option Nat :=
  match s with
  | '\'' :: rest | '"' :: rest =>
      match rest with
      | [] => some 0
      | c :: _ =>
          match (if wide then Octets.charAt? rest else none) with
          | some (d, _) => some d.toNat
          | none => some c.toNat
  | _ => none

/-- What is wrong with an argument that is to be a number. -/
inductive Flaw where
  | none
  | noNumber
  | rest
  | range
  deriving DecidableEq, Repr

def wholeNumber (s : Octets) : Int × Flaw :=
  let inBase (base : Nat) (negative : Bool) (d : Octets) : Int × Flaw :=
    let digits := d.takeWhile fun c => digitValue c < base
    let n : Int := (valueIn base digits : Nat)
    (if negative then -n else n,
      if d.length = digits.length then .none else .rest)
  let t := s.dropWhile isSpace
  let (negative, d) := match t with
    | '-' :: d => (true, d)
    | '+' :: d => (false, d)
    | d => (false, d)
  match d with
  | '0' :: x :: rest =>
      if (x == 'x' || x == 'X') && rest.head?.any isHexadecimal then inBase 16 negative rest
      else inBase 8 negative d
  | c :: _ => if c.isDigit then inBase 10 negative d else (0, .noNumber)
  | [] => (0, if s.isEmpty then .none else .noNumber)

def bounded (low high : Int) (n : Int) (flaw : Flaw) : Int × Flaw :=
  if n < low then (low, .range) else if n > high then (high, .range) else (n, flaw)

def fractionOf (voice : Voice) (s : Octets) : Text.Fraction × Flaw :=
  let width := if voice == .plainShell then Text.Fraction.double else Text.Fraction.extended
  match Text.Fraction.read? width true s with
  | none => (.zero, if s.isEmpty then .none else .noNumber)
  | some (x, rest) =>
      let written := s.dropWhile fun c => isSpace c || c == '+' || c == '-'
      let overflows := match x with
        | .infinite _ => written.head?.any Char.isDigit || written.head? == some '.'
        | _ => false
      (x, if !rest.isEmpty then .rest else if overflows then .range else .none)

/-! ## Formats -/

/-- A piece of what comes out of the printing of a format. -/
inductive Said where
  | printed (s : Octets)
  | told (message : Octets)

/-- How far the printing of a format has come. -/
structure Progress where
  said : List Said
  args : List Octets
  status : Nat
  goesOn : Bool

namespace Progress

def add (p : Progress) (s : Octets) : Progress := { p with said := .printed s :: p.said }

def remark (p : Progress) (message : Octets) : Progress :=
  { p with said := .told message :: p.said }

def complain (p : Progress) (status : Nat) (message : Octets) : Progress :=
  { p.remark message with status }

def stop (p : Progress) (status : Nat) (message : Octets) : Progress :=
  { p.complain status message with goesOn := false }

end Progress

/-- How the printing is done: who prints, and how texts are shown in messages. -/
structure Manner where
  voice : Voice
  wide : Bool
  shown : Octets → Octets
  now : Nat

def Manner.note (m : Manner) (arg : Octets) (flaw : Flaw) (p : Progress) : Progress :=
  let about (plain extended program : String) : Octets :=
    match m.voice with
    | .plainShell => arg ++ ": ".toList ++ plain.toList
    | .extendedShell => arg ++ ": ".toList ++ extended.toList
    | .program => m.shown arg ++ ": ".toList ++ program.toList
  match flaw with
  | .none => p
  | .noNumber => p.complain 1 (about "expected numeric value" "invalid number"
      "expected a numeric value")
  | .rest => p.complain 1 (about "not completely converted" "invalid number"
      "value not completely converted")
  | .range =>
      let message := about "Numerical result out of range" "Numerical result out of range"
        "Numerical result out of range"
      match m.voice with
      | .extendedShell => p.remark ("warning: ".toList ++ message)
      | _ => p.complain 1 message

/-- A word as the extended shell's `%q` quotes it. -/
def backslashed (s : Octets) : Octets :=
  let control (c : Char) : Bool := c < ' ' || c == '\x7f'
  if s.isEmpty then "''".toList
  else if s.any control then
    '$' :: '\'' :: s.flatMap (fun c =>
      if c == '\x1b' then "\\E".toList
      else if control c then controlEscape c
      else if c == '\'' || c == '\\' then ['\\', c] else [c]) ++ ['\'']
  else
    (s.foldl (fun ((text, before) : Octets × Option Char) c =>
      let special := " '\"\\|&;()<>!\x7b\x7d*[]?^$,".toList.contains c || c == '`' ||
        (c == '#' && before.isNone) ||
        (c == '~' && (before.isNone || before == some ':' || before == some '='))
      (if special then text ++ ['\\', c] else text ++ [c], some c)) ([], none)).1

/-! ### Dates -/

structure Day where
  year : Int
  month : Nat
  day : Nat
  deriving DecidableEq, Repr

def Day.ofNumber (n : Int) : Day :=
  let z := n + 719468
  let era := Int.fdiv z 146097
  let doe := (z - era * 146097).toNat
  let yoe := (doe - doe / 1460 + doe / 36524 - doe / 146096) / 365
  let doy := doe - (365 * yoe + yoe / 4 - yoe / 100)
  let mp := (5 * doy + 2) / 153
  let day := doy - (153 * mp + 2) / 5 + 1
  let month := if mp < 10 then mp + 3 else mp - 9
  ⟨(yoe : Int) + era * 400 + (if month ≤ 2 then 1 else 0), month, day⟩

def Day.number (d : Day) : Int :=
  let y := if d.month ≤ 2 then d.year - 1 else d.year
  let era := Int.fdiv y 400
  let yoe := (y - era * 400).toNat
  let mp := (d.month + 9) % 12
  let doy := (153 * mp + 2) / 5 + d.day - 1
  let doe := yoe * 365 + yoe / 4 - yoe / 100 + doy
  era * 146097 + (doe : Int) - 719468

def weekdays : List String :=
  ["Sunday", "Monday", "Tuesday", "Wednesday", "Thursday", "Friday", "Saturday"]

def months : List String :=
  ["January", "February", "March", "April", "May", "June", "July", "August", "September",
    "October", "November", "December"]

def twoDigits (n : Nat) : Octets :=
  let d := Octets.ofNat n
  List.replicate (2 - d.length) '0' ++ d

def weekOf (number : Int) : Int × Nat :=
  let weekday := (number + 3) % 7
  let thursday := number - weekday + 3
  let year := (Day.ofNumber thursday).year
  (year, ((thursday - Day.number ⟨year, 1, 1⟩) / 7).toNat + 1)

/-- A date as a format of letters behind percent signs asks for; times count in seconds. -/
def dateText (seconds : Int) (nanos : Nat) (fuel : Nat) (format : Octets) : Octets :=
  match fuel, format with
  | 0, _ | _, [] => []
  | fuel + 1, '%' :: rest =>
      let number := Int.fdiv seconds 86400
      let second := (seconds - number * 86400).toNat
      let d := Day.ofNumber number
      let weekday := ((number + 4) % 7).toNat
      let dayOfYear := (number - Day.number ⟨d.year, 1, 1⟩).toNat + 1
      let hour := second / 3600
      let minute := second / 60 % 60
      let twelve := if hour % 12 = 0 then 12 else hour % 12
      let inner (f : String) : Octets := dateText seconds nanos fuel f.toList
      let padded (width : Nat) (n : Nat) : Octets :=
        let s := Octets.ofNat n
        List.replicate (width - s.length) '0' ++ s
      let blankPadded (n : Nat) : Octets := padLeft 2 (Octets.ofNat n)
      let (flag, rest) := match rest with
        | '-' :: rest => (some '-', rest)
        | '_' :: rest => (some '_', rest)
        | '0' :: rest => (some '0', rest)
        | '^' :: rest => (some '^', rest)
        | '#' :: rest => (some '#', rest)
        | rest => (none, rest)
      let widthDigits := rest.takeWhile Char.isDigit
      let rest := rest.drop widthDigits.length
      match rest with
      | [] => ['%']
      | ':' :: 'z' :: rest => "+00:00".toList ++ dateText seconds nanos fuel rest
      | ':' :: ':' :: 'z' :: rest => "+00:00:00".toList ++ dateText seconds nanos fuel rest
      | c :: rest =>
          let s : Octets := match c with
            | 'Y' => (toString d.year).toList
            | 'C' => padded 2 (d.year / 100).toNat
            | 'y' => padded 2 (d.year % 100).toNat
            | 'm' => padded 2 d.month
            | 'd' => padded 2 d.day
            | 'e' => blankPadded d.day
            | 'H' => padded 2 hour
            | 'I' => padded 2 twelve
            | 'k' => blankPadded hour
            | 'l' => blankPadded twelve
            | 'M' => padded 2 minute
            | 'S' => padded 2 (second % 60)
            | 's' => (toString seconds).toList
            | 'N' =>
                let digits := padded 9 nanos
                (match readNat? widthDigits with
                  | some n => digits.take n
                  | none => digits)
            | 'j' => padded 3 dayOfYear
            | 'a' => ((weekdays.getD weekday "").take 3).toString.toList
            | 'A' => (weekdays.getD weekday "").toList
            | 'b' | 'h' => ((months.getD (d.month - 1) "").take 3).toString.toList
            | 'B' => (months.getD (d.month - 1) "").toList
            | 'p' => (if hour < 12 then "AM" else "PM").toList
            | 'P' => (if hour < 12 then "am" else "pm").toList
            | 'u' => Octets.ofNat (if weekday = 0 then 7 else weekday)
            | 'w' => Octets.ofNat weekday
            | 'U' => padded 2 ((dayOfYear + 6 - weekday) / 7)
            | 'W' => padded 2 ((dayOfYear + 6 - (weekday + 6) % 7) / 7)
            | 'V' => padded 2 (weekOf number).2
            | 'G' => (toString (weekOf number).1).toList
            | 'g' => padded 2 ((weekOf number).1 % 100).toNat
            | 'q' => Octets.ofNat ((d.month - 1) / 3 + 1)
            | 'F' => inner "%Y-%m-%d"
            | 'T' => inner "%H:%M:%S"
            | 'R' => inner "%H:%M"
            | 'D' | 'x' => inner "%m/%d/%y"
            | 'X' => inner "%H:%M:%S"
            | 'r' => inner "%I:%M:%S %p"
            | 'c' => inner "%a %b %e %H:%M:%S %Y"
            | 'z' => "+0000".toList
            | 'Z' => "UTC".toList
            | 'n' => ['\n']
            | 't' => ['\t']
            | '%' => ['%']
            | c => ['%', c]
          let s := match readNat? widthDigits with
            | some n => if c == 'N' || !s.all Char.isDigit then s
                else List.replicate (n - s.length) '0' ++ s
            | none => s
          let s := match flag with
            | some '-' =>
                if s.all Char.isDigit && s.length > 1 then
                  (match s.dropWhile (· == '0') with
                    | [] => ['0']
                    | t => t)
                else s.dropWhile (· == ' ')
            | some '_' => if s.head? == some '0' && s.length = 2 then ' ' :: s.drop 1 else s
            | some '0' => s.map fun d => if d == ' ' then '0' else d
            | some '^' => s.map Char.toUpper
            | some '#' => if c == 'Z' || c == 'p' then s.map Char.toLower else s.map Char.toUpper
            | _ => s
          s ++ dateText seconds nanos fuel rest
  | fuel + 1, c :: rest => c :: dateText seconds nanos fuel rest

/-! ### Directives -/

def convert (m : Manner) (f : Field) (conversion : Char) (p : Progress) : Progress :=
  let arg := p.args.headD []
  let isMissing := p.args.isEmpty
  let p := { p with args := p.args.tail }
  let cut (s : Octets) : Octets := match f.precision with
    | some n => s.take n
    | none => s
  let whole (low high : Int) (print : Int → Octets) : Progress :=
    match quotedNumber? (m.wide && m.voice != .plainShell) arg with
    | some n =>
        (if n = 0 && m.voice == .program then m.note arg .noNumber p else p).add (print n)
    | none =>
        let (n, flaw) := wholeNumber arg
        let (n, flaw) := bounded low high n flaw
        (m.note arg flaw p).add (print n)
  let unsigned : Progress := whole (-2 ^ 64 + 1) (2 ^ 64 - 1) fun n =>
    f.unsigned conversion (n % 2 ^ 64).toNat
  match conversion with
  | 's' => p.add (f.pad (cut arg))
  | 'b' =>
      let read := unescape (argumentEscape m.voice m.wide) (arg.length + 1) arg
      let p := (read.remarks.foldl Progress.remark p).add (f.pad (cut read.text))
      match read.fault with
      | some message => p.stop 1 message
      | none => { p with goesOn := read.goesOn }
  | 'c' => p.add (f.pad [arg.headD '\x00'])
  | 'd' | 'i' => whole (-2 ^ 63) (2 ^ 63 - 1) f.signed
  | 'o' | 'u' | 'x' | 'X' => unsigned
  | 'e' | 'f' | 'g' | 'E' | 'F' | 'G' =>
      match quotedNumber? (m.wide && m.voice != .plainShell) arg with
      | some n => p.add (f.fraction conversion (.ofInt n))
      | none =>
          let (x, flaw) := fractionOf m.voice arg
          (m.note arg flaw p).add (f.fraction conversion x)
  | 'a' | 'A' =>
      let (x, flaw) : Text.Fraction × Flaw := match quotedNumber? (m.wide && m.voice != .plainShell) arg with
        | some n => (.ofInt n, .none)
        | none => fractionOf m.voice arg
      (m.note arg flaw p).add (f.hexFraction (m.voice != .plainShell) (conversion == 'A') x)
  | 'Q' => p.add (f.pad (backslashed (cut arg)))
  | _ => p.add (f.pad (cut (if m.voice == .program then
      shellWord false (if isMissing then [] else arg) else backslashed arg)))

def conversionLetters (voice : Voice) : List Char :=
  "sbcdiouxXaefgAEFG".toList ++ (match voice with
    | .plainShell => []
    | .extendedShell => ['q', 'Q']
    | .program => ['q'])

/-- A number that a format gives for a width or a precision, where a star takes an argument. -/
def takeSize (m : Manner) (p : Progress) (s : Octets) : Option Int × Progress × Octets :=
  match s with
  | '*' :: rest =>
      let arg := p.args.headD []
      let (n, flaw) := wholeNumber arg
      (some n, m.note arg flaw { p with args := p.args.tail }, rest)
  | s =>
      let digits := s.takeWhile Char.isDigit
      ((readNat? digits).map fun n => (n : Int), p, s.drop digits.length)

def badDirective (m : Manner) (directive : Octets) (p : Progress) : Progress :=
  match m.voice with
  | .plainShell =>
      if directive.getLast?.any fun c => c.isDigit || "%#-+ .*".toList.contains c then
        if directive.length > 1 && directive.getLast? == some '%' then
          p.stop 2 (directive ++ ": invalid directive".toList)
        else p.stop 2 "missing format character".toList
      else p.stop 2 (directive ++ ": invalid directive".toList)
  | .extendedShell =>
      match directive.getLast? with
      | some c =>
          if c.isDigit || (c == '%' && directive.length = 1) then
            p.stop 1 ('`' :: directive ++ "': missing format character".toList)
          else p.stop 1 ('`' :: c :: "': invalid format character".toList)
      | none => p
  | .program => p.stop 1 (directive ++ ": invalid conversion specification".toList)

/-- Prints the format once; fuel bounds its length. -/
def formatOnce (m : Manner) (fuel : Nat) (s : Octets) (p : Progress) : Progress :=
  match fuel with
  | 0 => p
  | fuel + 1 =>
    if !p.goesOn then p
    else match s with
    | [] => p
    | '%' :: '%' :: rest => formatOnce m fuel rest (p.add ['%'])
    | '%' :: rest =>
        let flags := rest.takeWhile fun c =>
          c == '-' || c == '+' || c == ' ' || c == '0' || c == '#' ||
            (c == '\'' && m.voice != .plainShell)
        let (width, p, after) := takeSize m p (rest.drop flags.length)
        let (precision, p, after) := match after with
          | '.' :: after =>
              let (n, p, after) := takeSize m p after
              (some (n.getD 0), p, after)
          | after => (none, p, after)
        let after := if m.voice == .plainShell then after
          else after.dropWhile fun c => "hlLjzt".toList.contains c
        let flags := if width.any (· < 0) then '-' :: flags else flags
        let field : Field := ⟨flags, (width.getD 0).natAbs,
          precision.bind fun n => if n < 0 then none else some n.toNat⟩
        match after with
        | [] => badDirective m ('%' :: rest) p
        | '(' :: more =>
            let inner := more.takeWhile (· != ')')
            match m.voice, more.drop inner.length with
            | .extendedShell, ')' :: 'T' :: more =>
                let (n, _) := wholeNumber (p.args.headD "-1".toList)
                let seconds := if n < 0 then (m.now : Int) else n
                let format := if inner.isEmpty then "%X".toList else inner
                let s := dateText seconds 0 (8 * format.length + 8) format
                formatOnce m fuel more ({ p with args := p.args.tail }.add (field.pad s))
            | _, _ => badDirective m ('%' :: rest.take (rest.length - more.length)) p
        | conversion :: more =>
            let known := (conversionLetters m.voice).contains conversion &&
              !(m.voice == .program && (conversion == 'q' || conversion == 'b') &&
                rest.head? != some conversion)
            if known then
              formatOnce m fuel more (convert m field conversion p)
            else badDirective m ('%' :: rest.take (rest.length - more.length)) p
    | '\\' :: rest =>
        match formatEscape m.voice m.wide rest with
        | .ends => { p with goesOn := false }
        | .fault message => p.stop 1 message
        | .text t size => formatOnce m fuel (rest.drop size) (p.add t)
        | .odd t size message =>
            formatOnce m fuel (rest.drop size) ((p.remark message.toList).add t)
    | c :: rest =>
        let more := rest.takeWhile fun d => d != '%' && d != '\\'
        formatOnce m fuel (rest.drop more.length) (p.add (c :: more))

def formatAll (m : Manner) (format : Octets) (fuel : Nat) (p : Progress) : Progress :=
  match fuel with
  | 0 => p
  | fuel + 1 =>
    let before := p.args.length
    let p := formatOnce m (format.length + 1) format p
    if p.goesOn && !p.args.isEmpty then
      if p.args.length < before then formatAll m format fuel p
      else if m.voice == .program then
        p.remark ("warning: ignoring excess arguments, starting with ".toList ++
          m.shown (p.args.headD []))
      else p
    else p

def printf (m : Manner) (args : List Octets) : List Said × Nat :=
  match (match args with
    | ['-', '-'] :: rest => rest
    | rest => rest) with
  | [] => ([.told (match m.voice with
      | .plainShell => "usage: printf format [arg ...]".toList
      | .extendedShell => "usage: printf [-v var] format [arguments]".toList
      | .program => "missing operand".toList ++ tryHelp "printf")],
      if m.voice == .program then 1 else 2)
  | format :: rest =>
      let p := formatAll m format (rest.length + 1) ⟨[], rest, 0, true⟩
      (p.said.reverse, p.status)

def printedText (said : List Said) : Octets :=
  said.flatMap fun
    | .printed s => s
    | .told _ => []

/-! ## Programs -/

def echoProgram (c : Context) : Answer :=
  match c.args with
  | [['-', '-', 'v', 'e', 'r', 's', 'i', 'o', 'n']] => .ok c "echo (GNU coreutils) 9.1\n".toList
  | [['-', '-', 'h', 'e', 'l', 'p']] => .ok c "Usage: echo [SHORT-OPTION]... [STRING]...\n".toList
  | args => .ok c (echo .program c.isWide false args)

def printfProgram (c : Context) : Answer :=
  match c.args with
  | ['-', '-', 'v', 'e', 'r', 's', 'i', 'o', 'n'] :: _ =>
      .ok c "printf (GNU coreutils) 9.1\n".toList
  | args =>
      let m : Manner := ⟨.program, c.isWide, quoted c, c.now / 1000000⟩
      let (said, status) := printf m args
      let prints := said.map fun
        | .printed s => Print.out s
        | .told message => Print.err ("printf: ".toList ++ message ++ ['\n'])
      .ends ⟨prints, status, c.tree⟩

end Format

end Utility

end Conformance
