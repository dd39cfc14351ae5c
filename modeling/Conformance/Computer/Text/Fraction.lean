import Conformance.Computer.Text.Octets

/-!
# Binary fractions

Numbers with a whole mantissa and a power of two, as machines keep them, and their decimal forms.
Reading rounds to the nearest number that a width can hold, and printing rounds the exact value to
the nearest decimal of the asked length; halves go to the even neighbour both times.
-/

namespace Conformance

namespace Text

/-- The value is `mantissa * 2 ^ exponent`, or none. -/
inductive Fraction where
  | finite (negative : Bool) (mantissa : Nat) (exponent : Int)
  | infinite (negative : Bool)
  | undefined (negative : Bool)
  deriving DecidableEq, Repr

namespace Fraction

def isNegative : Fraction → Bool
  | finite negative _ _ | infinite negative | undefined negative => negative

def zero : Fraction := finite false 0 0

def ofInt (n : Int) : Fraction := finite (n < 0) n.natAbs 0

/-- How many binary digits a mantissa has, and between which exponents its last digit lies. -/
structure Width where
  digits : Nat
  least : Int
  greatest : Int

def double : Width := ⟨53, -1074, 971⟩

def extended : Width := ⟨64, -16445, 16320⟩

def single : Width := ⟨24, -149, 104⟩

/-- A quotient rounded to the nearest whole number; a half goes to the even one. -/
def roundDiv (a b : Nat) : Nat :=
  let q := a / b
  let r := a % b
  if 2 * r < b then q else if 2 * r > b then q + 1 else if q % 2 = 0 then q else q + 1

def ofQuotient (w : Width) (negative : Bool) (a b : Nat) : Fraction :=
  if a = 0 then finite negative 0 0
  else
    let guess : Int := (a.log2 : Int) - (b.log2 : Int) - (w.digits : Int)
    let quotientAt (e : Int) : Nat × Nat :=
      if e ≥ 0 then (a, b * 2 ^ e.toNat) else (a * 2 ^ (-e).toNat, b)
    let e := if (quotientAt guess).1 / (quotientAt guess).2 ≥ 2 ^ w.digits then guess + 1 else guess
    let e := max e w.least
    let (x, y) := quotientAt e
    let m := roundDiv x y
    let (m, e) := if m ≥ 2 ^ w.digits then (m / 2, e + 1) else (m, e)
    if e > w.greatest then infinite negative else finite negative m e

def ofDecimal (w : Width) (negative : Bool) (digits : Nat) (power : Int) : Fraction :=
  if digits = 0 then finite negative 0 0
  else if power > 6000 then infinite negative
  else if power < -12000 then finite negative 0 0
  else if power ≥ 0 then ofQuotient w negative (digits * 10 ^ power.toNat) 1
  else ofQuotient w negative digits (10 ^ (-power).toNat)

/-! ## Reading -/

def isSpace (c : Char) : Bool := c == ' ' || ('\t' ≤ c && c ≤ '\r')

def digitValue (c : Char) : Nat :=
  if c.isDigit then c.toNat - '0'.toNat
  else if 'a' ≤ c ∧ c ≤ 'z' then c.toNat - 'a'.toNat + 10
  else if 'A' ≤ c ∧ c ≤ 'Z' then c.toNat - 'A'.toNat + 10
  else 99

def naturalIn (base : Nat) (digits : Octets) : Nat :=
  digits.foldl (fun n c => base * n + digitValue c) 0

def readExponent (letter : Char) (s : Octets) : Int × Octets :=
  match s with
  | c :: rest =>
      if c.toLower == letter then
        let (negative, digits) := match rest with
          | '-' :: digits => (true, digits)
          | '+' :: digits => (false, digits)
          | digits => (false, digits)
        let number := digits.takeWhile Char.isDigit
        if number.isEmpty then (0, s)
        else
          let n : Int := naturalIn 10 number
          (if negative then -n else n, digits.drop number.length)
      else (0, s)
  | [] => (0, [])

/-- Digits in a base with perhaps a point among them: the digits, how many stand behind the point,
and what follows. -/
def readDigits (base : Nat) (s : Octets) : Octets × Nat × Octets :=
  let isDigit (c : Char) : Bool := digitValue c < base
  let whole := s.takeWhile isDigit
  match s.drop whole.length with
  | '.' :: rest =>
      let behind := rest.takeWhile isDigit
      (whole ++ behind, behind.length, rest.drop behind.length)
  | rest => (whole, 0, rest)

def readUnsigned (w : Width) (negative hexadecimal : Bool) (s : Octets) :
    Option (Fraction × Octets) :=
  let lower := (s.take 8).map Char.toLower
  let decimal : Option (Fraction × Octets) :=
    let (digits, behind, rest) := readDigits 10 s
    if digits.isEmpty then none
    else
      let (power, rest) := readExponent 'e' rest
      some (ofDecimal w negative (naturalIn 10 digits) (power - behind), rest)
  if "infinity".toList.isPrefixOf lower then some (infinite negative, s.drop 8)
  else if "inf".toList.isPrefixOf lower then some (infinite negative, s.drop 3)
  else if "nan".toList.isPrefixOf lower then some (undefined negative, s.drop 3)
  else match s with
    | '0' :: x :: rest =>
        if x.toLower == 'x' && hexadecimal then
          let (digits, behind, rest) := readDigits 16 rest
          if digits.isEmpty then decimal
          else
            let (power, rest) := readExponent 'p' rest
            let shift : Int := power - 4 * (behind : Int)
            let n := naturalIn 16 digits
            if shift ≥ 0 then some (ofQuotient w negative (n * 2 ^ shift.toNat) 1, rest)
            else some (ofQuotient w negative n (2 ^ (-shift).toNat), rest)
        else decimal
    | _ => decimal

/-- Reads a number at the front of a text, blanks before it left out; also what follows it. -/
def read? (w : Width) (hexadecimal : Bool) (s : Octets) : Option (Fraction × Octets) :=
  match s.dropWhile isSpace with
  | '-' :: rest => readUnsigned w true hexadecimal rest
  | '+' :: rest => readUnsigned w false hexadecimal rest
  | rest => readUnsigned w false hexadecimal rest

/-! ## Printing -/

def quotient (mantissa : Nat) (exponent : Int) : Nat × Nat :=
  if exponent ≥ 0 then (mantissa * 2 ^ exponent.toNat, 1) else (mantissa, 2 ^ (-exponent).toNat)

def zeros (n : Nat) : Octets := List.replicate n '0'

def digitsOf (n : Nat) : Octets := Nat.toDigits 10 n

/-- A point before the last digits; `always` keeps it where no digits follow. -/
def withPoint (always : Bool) (places : Nat) (digits : Octets) : Octets :=
  let digits := zeros (places + 1 - digits.length) ++ digits
  let whole := digits.take (digits.length - places)
  let behind := digits.drop (digits.length - places)
  if behind.isEmpty then (if always then whole ++ ['.'] else whole) else whole ++ '.' :: behind

def fixedText (always : Bool) (places : Nat) (a b : Nat) : Octets :=
  withPoint always places (digitsOf (roundDiv (a * 10 ^ places) b))

def leadingDigits (count : Nat) (a b : Nat) : Nat × Int :=
  let scaled (power : Int) : Nat :=
    let shift : Int := (count : Int) - 1 - power
    if shift ≥ 0 then roundDiv (a * 10 ^ shift.toNat) b else roundDiv a (b * 10 ^ (-shift).toNat)
  let guess : Int := ((digitsOf a).length : Int) - ((digitsOf b).length : Int)
  let isBelow (power : Int) : Bool :=
    if power ≥ 0 then a < b * 10 ^ power.toNat else a * 10 ^ (-power).toNat < b
  let power := if isBelow guess then guess - 1 else guess
  let n := scaled power
  if n ≥ 10 ^ count then (scaled (power + 1), power + 1) else (n, power)

def exponentText (power : Int) : Octets :=
  let digits := digitsOf power.natAbs
  (if power < 0 then ['e', '-'] else ['e', '+']) ++ zeros (2 - digits.length) ++ digits

def scientificText (always : Bool) (places : Nat) (a b : Nat) : Octets :=
  let (n, power) := if a = 0 then (0, 0) else leadingDigits (places + 1) a b
  withPoint always places (digitsOf n) ++ exponentText power

/-- The digits behind a point without zeros at the end, nor the point if nothing is left. -/
def trimZeros (s : Octets) : Octets :=
  if s.contains '.' then
    match (s.reverse.dropWhile (· == '0')) with
    | '.' :: whole => whole.reverse
    | kept => kept.reverse
  else s

def generalText (always : Bool) (digits : Nat) (a b : Nat) : Octets :=
  let digits := max digits 1
  let (_, power) := if a = 0 then (0, 0) else leadingDigits digits a b
  let finishText (s : Octets) : Octets := if always then s else trimZeros s
  if power < -4 || power ≥ (digits : Int) then
    let whole := scientificText always (digits - 1) a b
    let body := whole.takeWhile (· != 'e')
    finishText body ++ whole.drop body.length
  else finishText (fixedText always ((digits : Int) - 1 - power).toNat a b)

/-- With digits to base sixteen and a power of two, behind the mark of that base.  The first digit
takes `leading` binary digits; without a number of places there are as many as it takes. -/
def hexText (w : Width) (leading : Nat) (always : Bool) (places : Option Nat) (mantissa : Nat)
    (exponent : Int) : Octets :=
  let behind := (w.digits - leading) / 4
  let (first, rest, power) : Nat × Nat × Int :=
    if mantissa = 0 then (0, 0, 0)
    else
      let size := mantissa.log2 + 1
      let m := mantissa * 2 ^ (w.digits - size)
      (m / 16 ^ behind, m % 16 ^ behind, exponent + (size : Int) - (leading : Int))
  let shown := match places with
    | none => behind
    | some n => min n behind
  let rounded := roundDiv (first * 16 ^ behind + rest) (16 ^ (behind - shown))
  let overflows := rounded / 16 ^ shown ≥ 16
  let rounded := if overflows then rounded / 16 else rounded
  let power := if overflows then power + 4 else power
  let digits := Nat.toDigits 16 (rounded % 16 ^ shown)
  let digits := zeros (shown - digits.length) ++ (if shown = 0 then [] else digits)
  let digits := match places with
    | none => (digits.reverse.dropWhile (· == '0')).reverse
    | some n => digits ++ zeros (n - shown)
  let point : Octets := if digits.isEmpty && !always then [] else ['.']
  Nat.toDigits 16 (rounded / 16 ^ shown) ++ point ++ digits ++
    (if power < 0 then ['p', '-'] else ['p', '+']) ++ digitsOf power.natAbs

/-- The three ways to print a magnitude. -/
inductive Style where
  | fixed
  | scientific
  | general
  deriving DecidableEq, Repr

def magnitudeText (style : Style) (always : Bool) (precision : Nat) : Fraction → Octets
  | infinite _ => "inf".toList
  | undefined _ => "nan".toList
  | finite _ mantissa exponent =>
      let (a, b) := quotient mantissa exponent
      match style with
      | .fixed => fixedText always precision a b
      | .scientific => scientificText always precision a b
      | .general => generalText always precision a b

/-! ## Machine numbers -/

def ofFloat (x : Float) : Fraction :=
  let bits := x.toBits.toNat
  let negative := bits / 2 ^ 63 == 1
  let exponent : Nat := bits / 2 ^ 52 % 2 ^ 11
  let mantissa : Nat := bits % 2 ^ 52
  if exponent = 2047 then (if mantissa = 0 then infinite negative else undefined negative)
  else if exponent = 0 then finite negative mantissa (-1074)
  else finite negative (mantissa + 2 ^ 52) ((exponent : Int) - 1075)

/-- The value of the bits of a number of a width, which has so many bits for its exponent; the first
digit of the mantissa may be written down or go without saying. -/
def ofBits (w : Width) (exponentBits : Nat) (isExplicit : Bool) (bits : Nat) : Fraction :=
  let kept := if isExplicit then w.digits else w.digits - 1
  let mantissa := bits % 2 ^ kept
  let exponent := bits / 2 ^ kept % 2 ^ exponentBits
  let negative := (bits / 2 ^ (kept + exponentBits)) % 2 == 1
  if exponent = 2 ^ exponentBits - 1 then
    if mantissa % 2 ^ (w.digits - 1) = 0 then infinite negative else undefined negative
  else if mantissa = 0 && exponent = 0 then finite negative 0 0
  else if exponent = 0 then finite negative mantissa w.least
  else finite negative (if isExplicit then mantissa else mantissa + 2 ^ kept)
    ((exponent : Int) - 1 + w.least)

/-- The general text with the fewest digits, from some number on, that reads back as the same number
of a width. -/
def shortestText (w : Width) (x : Fraction) (digits fuel : Nat) : Octets :=
  let text := (if x.isNegative then ['-'] else []) ++ magnitudeText .general false digits x
  match fuel with
  | 0 => text
  | fuel + 1 =>
      match x with
      | finite .. =>
          if (read? w false text).any fun (y, _) => y = x then text
          else shortestText w x (digits + 1) fuel
      | _ => text

def toFloat : Fraction → Float
  | infinite negative => if negative then -(1.0 / 0.0) else 1.0 / 0.0
  | undefined _ => 0.0 / 0.0
  | finite negative mantissa exponent =>
      let x := if exponent ≥ 0 then
          Float.scaleB (Float.ofNat mantissa) exponent
        else
          -- In two halves, because the smallest powers are no normal numbers.
          let half := exponent / 2
          Float.scaleB (Float.scaleB (Float.ofNat mantissa) half) (exponent - half)
      if negative then -x else x

def truncate : Fraction → Int
  | finite negative mantissa exponent =>
      let (a, b) := quotient mantissa exponent
      let n : Int := ((a / b : Nat) : Int)
      if negative then -n else n
  | _ => 0

end Fraction

end Text

end Conformance
