import Conformance.Computer.Utility.Excerpt
import Conformance.Computer.Utility.Format

/-!
# Sequences

The programs `seq`, `yes` and `factor`.
-/

namespace Conformance

namespace Utility

namespace Sequence

/-- A decimal number, with how it was written: its width and its places behind the point.  Without
places it is written by its value. -/
structure Term where
  digits : Int
  scale : Nat
  width : Int
  places : Option Nat
  infinite : Bool
  minusZero : Bool

def readTerm? (s : Octets) : Option Term :=
  let text := s.dropWhile fun c => isSpace c || c == '+'
  let negative := text.head? == some '-'
  let body := if negative then text.drop 1 else text
  let lower := body.map Char.toLower
  if lower = "inf".toList || lower = "infinity".toList then
    some ⟨if negative then -1 else 1, 0, 0, none, true, false⟩
  else if lower.take 2 = ['0', 'x'] then
    match Text.Fraction.read? Text.Fraction.double true text with
    | some (x, []) => some ⟨x.truncate, 0, 0, if text.contains 'p' then none else some 0, false, false⟩
    | _ => none
  else
    let whole := body.takeWhile Char.isDigit
    let rest := body.drop whole.length
    let (part, rest, pointed) := match rest with
      | '.' :: rest =>
          let part := rest.takeWhile Char.isDigit
          (part, rest.drop part.length, true)
      | rest => ([], rest, false)
    let exponent? : Option (Int × Bool) := match rest with
      | [] => some (0, false)
      | 'e' :: e | 'E' :: e => (readInt? e).map fun n => (n, true)
      | _ => none
    match exponent? with
    | none => none
    | some (e, hasExponent) =>
        if whole.isEmpty && part.isEmpty then none
        else
          let n : Int := ((readNat? (whole ++ part)).getD 0 : Nat)
          let n := if negative then -n else n
          let scale : Int := (part.length : Int) - e
          let (digits, scale) := if scale ≥ 0 then (n, scale.toNat)
            else (n * 10 ^ (-scale).toNat, 0)
          let written := text.length - (if hasExponent then rest.length else 0)
          let width : Int := written
          let width := if pointed then
              width + (if part.isEmpty then -1 else if whole.isEmpty then 1 else 0)
            else width
          let places : Int := part.length
          let places := if e < 0 then places - e else places - min places e
          let width := if hasExponent then
              (if e < 0 then (if pointed then (if part.isEmpty then width + 1 else width)
                else width + 1) + -e
              else width + e)
            else width
          some ⟨digits, scale, width, some places.toNat, false, negative && n = 0⟩

def Term.scaledTo (t : Term) (scale : Nat) : Int := t.digits * 10 ^ (scale - t.scale)

/-- A number with its last digits behind a point, rounded to a number of places. -/
def decimalText (places scale : Nat) (n : Int) : Octets :=
  let magnitude := Text.Fraction.fixedText false places n.natAbs (10 ^ scale)
  if n < 0 then '-' :: magnitude else magnitude

def zeroPadded (width : Nat) (s : Octets) : Octets :=
  match s with
  | '-' :: digits => '-' :: List.replicate (width - s.length) '0' ++ digits
  | digits => List.replicate (width - s.length) '0' ++ digits

def conversionOf? (s : Octets) : Option (Octets × Format.Field × Char × Octets) :=
  let rec upTo (fuel : Nat) (taken : Octets) (s : Octets) : Option (Octets × Octets) :=
    match fuel, s with
    | 0, _ | _, [] => none
    | fuel + 1, '%' :: '%' :: rest => upTo fuel ('%' :: taken) rest
    | _ + 1, '%' :: rest => some (taken.reverse, rest)
    | fuel + 1, c :: rest => upTo fuel (c :: taken) rest
  (upTo (s.length + 1) [] s).bind fun (before, rest) =>
    let flags := rest.takeWhile fun c => "-+ 0#'".toList.contains c
    let rest := rest.drop flags.length
    let width := rest.takeWhile Char.isDigit
    let rest := rest.drop width.length
    let (precision, rest) := match rest with
      | '.' :: rest =>
          let digits := rest.takeWhile Char.isDigit
          (some ((readNat? digits).getD 0), rest.drop digits.length)
      | rest => (none, rest)
    match rest with
    | c :: after =>
        -- No other conversion may follow.
        if "aefgAEFG".toList.contains c && (upTo (after.length + 1) [] after).isNone then
          some (before, ⟨flags, (readNat? width).getD 0, precision⟩, c, after)
        else none
    | [] => none

def plainText : Octets → Octets
  | '%' :: '%' :: rest => '%' :: plainText rest
  | c :: rest => c :: plainText rest
  | [] => []

def printerOf (o : Options) (first step last : Term) :
    Except String (Nat → Int → Octets) := do
  match o.value? 'f' with
  | some format =>
      match conversionOf? format with
      | none => throw "has no % directive"
      | some (before, field, letter, after) =>
          return fun scale n =>
            let x := Text.Fraction.ofQuotient Text.Fraction.extended (n < 0) n.natAbs (10 ^ scale)
            let text := if letter == 'a' || letter == 'A' then
                field.hexFraction true (letter == 'A') x
              else field.fraction letter x
            plainText before ++ text ++ plainText after
  | none =>
      match first.places, step.places with
      | some p, some q =>
          let places := max p q
          let plain : Nat → Int → Octets := fun scale n => decimalText places scale n
          if !o.has 'w' then return plain
          else
            let lastPlaces := last.places.getD 0
            let firstWidth := first.width + ((places : Int) - p) +
              (if p = 0 && places > 0 then 1 else 0)
            let lastWidth := last.width + ((places : Int) - lastPlaces) +
              (if lastPlaces > 0 && places = 0 then -1
              else if lastPlaces = 0 && places > 0 then 1 else 0)
            let width := (max firstWidth lastWidth).toNat
            return fun scale n => zeroPadded width (plain scale n)
      | _, _ =>
          return fun scale n =>
            let x := Text.Fraction.ofQuotient Text.Fraction.extended (n < 0) n.natAbs (10 ^ scale)
            (⟨[], 0, none⟩ : Format.Field).fraction 'g' x

/-- Numbers begin with a dash too; options end where the first one stands. -/
def separateOperands (args : List Octets) : List Octets :=
  let isNumber (a : Octets) : Bool := match a with
    | '-' :: d :: _ => d.isDigit || d == '.'
    | '-' :: _ => false
    | _ => true
  let rec go : List Octets → List Octets
    | [] => []
    | ['-', '-'] :: rest => ['-', '-'] :: rest
    | ['-', letter] :: value :: rest =>
        if letter == 'f' || letter == 's' then ['-', letter] :: value :: go rest
        else if isNumber ['-', letter] then ['-', '-'] :: ['-', letter] :: value :: rest
        else ['-', letter] :: go (value :: rest)
    | a :: rest =>
        if isNumber a then ['-', '-'] :: a :: rest else a :: go rest
  go args

def endlessCount : Nat := 20000

def seq (c : Context) : Answer :=
  let long : List (String × Char × Arity) :=
    [("equal-width", 'w', .flag), ("format", 'f', .required), ("separator", 's', .required)]
  withLeadingOptions { c with args := separateOperands c.args } "seq" 1 "f:s:w" long fun o =>
    match o.operands with
    | [] => missingOperand c "seq"
    | _ :: _ :: _ :: extra :: _ => extraOperand c "seq" extra
    | operands =>
      let bad := operands.find? fun a => (readTerm? a).isNone
      match bad, operands.filterMap readTerm? with
      | some a, _ =>
          .failure c 1 ("seq: invalid floating point argument: ".toList ++ quoted c a ++
            tryHelp "seq")
      | none, terms =>
        let one : Term := ⟨1, 0, 1, some 0, false, false⟩
        let (first, step, last) := match terms with
          | [last] => (one, one, last)
          | [first, last] => (first, one, last)
          | [first, step, last] => (first, step, last)
          | _ => (one, one, one)
        if step.digits = 0 then
          .failure c 1 ("seq: invalid Zero increment value: ".toList ++
            quoted c (operands.getD 1 []) ++ tryHelp "seq")
        else if o.has 'w' && o.has 'f' then
          .failure c 1 ("seq: format string may not be specified when printing equal width strings"
            |>.toList |> (· ++ tryHelp "seq"))
        else match printerOf o first step last with
          | .error message =>
              .failure c 1 ("seq: format ".toList ++ quoted c ((o.value? 'f').getD []) ++
                ' ' :: message.toList)
          | .ok print =>
              let scale := max first.scale (max step.scale last.scale)
              let a := first.scaledTo scale
              let d := step.scaledTo scale
              let b := last.scaledTo scale
              let count : Nat :=
                if last.infinite then (if (d > 0) == (b > 0) then endlessCount else 0)
                else if d > 0 then (if a > b then 0 else ((b - a) / d).toNat + 1)
                else (if a < b then 0 else ((a - b) / (-d)).toNat + 1)
              let between := (o.value? 's').getD ['\n']
              let numbers := (List.range count).map fun k : Nat =>
                let text := print scale (a + d * (k : Int))
                if k = 0 && first.minusZero && !o.hasAny "fw" then '-' :: text else text
              let text := if count = 0 then [] else joinWith between numbers ++ ['\n']
              if last.infinite then .goesOn text else .ok c text

def yes (c : Context) : Answer :=
  let asksOnly : Bool := match c.args with
    | [a] => a = "--help".toList || a = "--version".toList
    | _ => false
  if asksOnly then withOptions c "yes" 1 "" [] fun _ => .status c 0
  else withLeadingOptions c "yes" 1 "" [] fun o =>
    let line := (if o.operands.isEmpty then ['y'] else joinWith [' '] o.operands) ++ ['\n']
    .goesOn (List.replicate (max 1 (4096 / line.length)) line).flatten

/-! ## Factors -/

/-- Divides by small numbers: the prime factors found so, smallest first, and what is left.  Fuel
bounds how many divisors are tried. -/
def smallFactors (fuel d n : Nat) : List Nat × Nat :=
  match fuel with
  | 0 => ([], n)
  | fuel + 1 =>
      if n ≤ 1 then ([], 1)
      else if d * d > n then ([n], 1)
      else if n % d = 0 then
        let (factors, rest) := smallFactors fuel d (n / d)
        (d :: factors, rest)
      else smallFactors fuel (if d = 2 then 3 else d + 2) n

/-- A power of a number, of which only the remainder counts; fuel bounds the bits of the exponent. -/
def powerModulo (fuel base exponent n : Nat) : Nat :=
  match fuel with
  | 0 => 1 % n
  | fuel + 1 =>
      if exponent = 0 then 1 % n
      else
        let half := powerModulo fuel (base * base % n) (exponent / 2) n
        if exponent % 2 = 1 then half * base % n else half

def meetsMinusOne (n : Nat) (steps x : Nat) : Bool :=
  match steps with
  | 0 => false
  | steps + 1 => x + 1 = n || meetsMinusOne n steps (x * x % n)

def passesForPrime (n : Nat) : Bool :=
  let size := n.log2 + 1
  let twos := ((List.range size).find? fun k => (n - 1) / 2 ^ k % 2 = 1).getD 0
  let odd := (n - 1) / 2 ^ twos
  [2, 3, 5, 7, 11, 13, 17, 19, 23, 29, 31, 37, 41].all fun base =>
    let x := powerModulo size base odd n
    base % n = 0 || x = 1 || meetsMinusOne n twos x

/-- Looks for a factor by two walks through the remainders, one twice as fast as the other; fuel
bounds the steps. -/
def walkToFactor (n shift : Nat) (fuel slow fast : Nat) : Option Nat :=
  match fuel with
  | 0 => none
  | fuel + 1 =>
      let step (x : Nat) : Nat := (x * x + shift) % n
      let slow := step slow
      let fast := step (step fast)
      let d := Nat.gcd ((if slow ≤ fast then fast - slow else slow - fast)) n
      if d = n then none
      else if d > 1 then some d
      else walkToFactor n shift fuel slow fast

/-- The prime factors of a number that small numbers do not divide; fuel bounds how many there are. -/
def largeFactors (fuel n : Nat) : List Nat :=
  match fuel with
  | 0 => [n]
  | fuel + 1 =>
      if n ≤ 1 then []
      else if passesForPrime n then [n]
      else match [1, 3, 5, 7, 11].findSome? fun shift => walkToFactor n shift 200000 2 2 with
        | some d => largeFactors fuel d ++ largeFactors fuel (n / d)
        | none => [n]

def factorsOf (n : Nat) : List Nat :=
  let (small, rest) := smallFactors 5000 2 n
  small ++ (largeFactors (rest.log2 + 1) rest).mergeSort

def factorLine (asPowers : Bool) (n : Nat) : Octets :=
  let factors := factorsOf n
  let powers := factors.eraseDups.map fun p => (p, factors.count p)
  Octets.ofNat n ++ ':' ::
    (if asPowers then
      powers.flatMap fun (p, k) =>
        ' ' :: Octets.ofNat p ++ (if k > 1 then '^' :: Octets.ofNat k else [])
    else factors.flatMap fun p => ' ' :: Octets.ofNat p) ++ ['\n']

def factor (c : Context) : Answer :=
  withOptions c "factor" 1 "h" [("exponents", 'h', .flag)] fun o =>
    if o.operands.isEmpty && !c.inputEnded then .more
    else
      let words := if o.operands.isEmpty then wordsOf c.input else o.operands
      let number? (w : Octets) : Option Nat :=
        readNat? (match w.dropWhile (· == ' ') with
          | '+' :: rest => rest
          | rest => rest)
      .ends ⟨words.map fun w =>
          match number? w with
          | some n => .out (factorLine (o.has 'h') n)
          | none => .err ("factor: ".toList ++ quoted c w ++
              " is not a valid positive integer\n".toList),
        if words.any (fun w => (number? w).isNone) then 1 else 0, c.tree⟩

end Sequence

end Utility

end Conformance
