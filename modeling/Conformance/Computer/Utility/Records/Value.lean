import Conformance.Computer.Utility.Format
import Conformance.Computer.Utility.Records.Table

/-!
# Values of programs

A value is a number or a text.  A text that has been read counts as a number where it spells one.
-/

namespace Conformance

namespace Utility

namespace Records

open Text (Fraction)

inductive Value where
  | unset
  | number (x : Float)
  | text (s : Octets)
  | numeral (s : Octets) (x : Float)
  deriving Inhabited

/-! ## Numbers and their texts -/

def leadingNumber? (s : Octets) : Option (Float × Octets) :=
  let t := s.dropWhile isSpace
  let digits := t.takeWhile Char.isDigit
  let rest := t.drop digits.length
  let plain := match rest with
    | [] => true
    | c :: _ => isSpace c
  if !digits.isEmpty && digits.length ≤ 15 && plain then
    some (Float.ofNat (Fraction.naturalIn 10 digits), rest)
  else (Fraction.read? Fraction.double true t).map fun (x, rest) => (x.toFloat, rest)

def Value.ofInput (s : Octets) : Value :=
  match leadingNumber? s with
  | some (x, rest) => if rest.all isSpace then .numeral s x else .text s
  | none => .text s

def Value.ofNat (n : Nat) : Value := .number (Float.ofNat n)

def Value.ofBool (b : Bool) : Value := .number (if b then 1.0 else 0.0)

namespace Value

def toNumber : Value → Float
  | unset => 0.0
  | number x | numeral _ x => x
  | text s => ((leadingNumber? s).map Prod.fst).getD 0.0

def isNumeric : Value → Bool
  | text _ => false
  | _ => true

def toBool : Value → Bool
  | unset => false
  | number x | numeral _ x => x != 0.0
  | text s => !s.isEmpty

end Value

/-- The largest numbers that are kept as whole ones, with and without a sign. -/
def signedLimit : Float := 9223372036854775808.0

def unsignedLimit : Float := 18446744073709551616.0

def wholePart (x : Float) : Int :=
  if x.isNaN then -9223372036854775808
  else if x ≥ unsignedLimit then 18446744073709551615
  else if x ≤ -signedLimit then -9223372036854775807
  else if x < 0.0 then -((-x).toUInt64.toNat : Int)
  else (x.toUInt64.toNat : Int)

def wholeLimit : Float := 2147483647.0

def wholeText? (x : Float) : Option Octets :=
  if x.floor == x && x ≤ wholeLimit && x ≥ -wholeLimit then
    some (toString (wholePart x)).toList
  else none

/-! ## Formats -/

/-- Why a format cannot be printed. -/
inductive FormatFault where
  | missing
  | improper (n : Nat)

/-- A text that was made of a format; a fault cuts it short. -/
structure Formatted where
  text : Octets
  fault? : Option FormatFault

/-- What a conversion makes of a value, where `shown` gives the text of a number. -/
def convert (shown : Float → Octets) (f : Format.Field) (conversion : Char) (v : Value) :
    Option Octets :=
  let x := v.toNumber
  let plainText : Octets := match v with
    | .unset => []
    | .number x => shown x
    | .text s | .numeral s _ => s
  match conversion with
  | 'd' | 'i' => some (f.signed (wholePart x))
  | 'o' | 'x' | 'X' | 'u' =>
      let n := wholePart x
      some (f.unsigned conversion (if n < 0 then (n + 18446744073709551616).toNat else n.toNat))
  | 'e' | 'f' | 'g' | 'E' | 'F' | 'G' => some (f.fraction conversion (Fraction.ofFloat x))
  | 'c' =>
      let c := match v with
        | .text s => s.headD '\x00'
        | .unset => '\x00'
        | _ => Char.ofNat ((wholePart x % 256).toNat)
      some (f.pad [c])
  | 's' => some (f.pad (match f.precision with
      | some n => plainText.take n
      | none => plainText))
  | _ => none

def readSize (s : Octets) (args : List Value) : Except FormatFault (Option Int × Octets × List Value) :=
  match s with
  | '*' :: rest =>
      match args with
      | [] => .error .missing
      | v :: args => .ok (some (wholePart v.toNumber), rest, args)
  | _ =>
      let digits := s.takeWhile Char.isDigit
      if digits.isEmpty then .ok (none, s, args)
      else .ok (some (Fraction.naturalIn 10 digits : Nat), s.drop digits.length, args)

/-- Prints arguments in a format; fuel bounds its length. -/
def formatted (shown : Float → Octets) (fuel n : Nat) (format : Octets) (args : List Value) :
    Formatted :=
  match fuel, format with
  | 0, _ | _, [] => ⟨[], none⟩
  | fuel + 1, '%' :: '%' :: rest =>
      let r := formatted shown fuel n rest args
      ⟨'%' :: r.text, r.fault?⟩
  | fuel + 1, '%' :: rest =>
      let flags := rest.takeWhile "-+ #0".toList.contains
      match readSize (rest.drop flags.length) args with
      | .error fault => ⟨[], some fault⟩
      | .ok (width?, rest, args) =>
          let precision : Except FormatFault (Option Int × Octets × List Value) := match rest with
            | '.' :: rest => (readSize rest args).map fun r => (some (r.1.getD 0), r.2)
            | rest => .ok (none, rest, args)
          match precision with
          | .error fault => ⟨[], some fault⟩
          | .ok (precision?, rest, args) =>
              let (long, rest) := match rest with
                | 'l' :: rest => (true, rest)
                | 'h' :: rest => (true, rest)
                | rest => (false, rest)
              match args with
              | [] => ⟨[], some .missing⟩
              | v :: args =>
                  let width := width?.getD 0
                  let field : Format.Field :=
                    ⟨if width < 0 then '-' :: flags else flags, width.natAbs,
                      precision?.bind fun p => if p < 0 then none else some p.toNat⟩
                  let conversion := rest.headD '\x00'
                  match (if long && !"dioxXu".toList.contains conversion then none
                    else convert shown field conversion v) with
                  | none => ⟨[], some (.improper n)⟩
                  | some s =>
                      let r := formatted shown fuel (n + 1) (rest.drop 1) args
                      ⟨s ++ r.text, r.fault?⟩
  | fuel + 1, c :: rest =>
      let more := rest.takeWhile (· != '%')
      let r := formatted shown fuel n (rest.drop more.length) args
      ⟨c :: more ++ r.text, r.fault?⟩

def numberText (format : Octets) (x : Float) : Octets :=
  match wholeText? x with
  | some s => s
  | none => (formatted (fun _ => []) (format.length + 1) 1 format [.number x]).text

def Value.toText (format : Octets) : Value → Octets
  | unset => []
  | number x => numberText format x
  | text s | numeral s _ => s

def Value.toKey (format : Octets) : Value → Key
  | unset => .text []
  | number x =>
      if x.floor == x && x < signedLimit && x > -signedLimit then .number (wholePart x)
      else .text (numberText format x)
  | text s | numeral s _ => .text s

/-- The order of two texts: that of the first bytes in which they differ. -/
def compareTexts : Octets → Octets → Ordering
  | [], [] => .eq
  | [], _ :: _ => .lt
  | _ :: _, [] => .gt
  | a :: s, b :: t => if a < b then .lt else if b < a then .gt else compareTexts s t

/-- How two values compare: as numbers if both are, otherwise as texts. -/
def Value.holds (format : Octets) (less equal greater : Bool) (a b : Value) : Bool :=
  if a.isNumeric && b.isNumeric then
    let (x, y) := (a.toNumber, b.toNumber)
    if x < y then less else if x == y then equal else greater
  else match compareTexts (a.toText format) (b.toText format) with
    | .lt => less
    | .eq => equal
    | .gt => greater

end Records

end Utility

end Conformance
