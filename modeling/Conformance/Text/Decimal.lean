import Conformance.Instances

/-!
# Decimal numerals

Reading an unsigned number below `2 ^ 64` from decimal digits with an optional plus sign.
-/

namespace Conformance

namespace Text

namespace Decimal

/-- The value of one ASCII digit. -/
def digit? (c : Char) : Option Nat :=
  if '0' ≤ c ∧ c ≤ '9' then some (c.toNat - '0'.toNat) else none

/-- The value of a run of digits that follows digits with value `high`. -/
def readFrom (high : Nat) : List Char → Option Nat
  | [] => some high
  | c :: rest => (digit? c).bind fun d => readFrom (10 * high + d) rest

/-- Reads at least one digit. -/
def readDigits : List Char → Option Nat
  | [] => none
  | s => readFrom 0 s

/-- Reads a number of at most 64 bits. -/
def readWord64 (s : List Char) : Option Nat :=
  let digits := match s with
    | '+' :: rest => rest
    | _ => s
  (readDigits digits).filter (· < 2 ^ 64)

end Decimal

end Text

end Conformance
