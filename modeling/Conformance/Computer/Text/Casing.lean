/-!
# Capital and small letters

The pairs of letters in the Latin, Greek and Cyrillic alphabets, and the ways in which letters are
compared.
-/

namespace Conformance

namespace Text

def upperOf (c : Char) : Char :=
  let n := c.toNat
  if n < 0x80 then c.toUpper
  else if (0xE0 ≤ n ∧ n ≤ 0xFE ∧ n ≠ 0xF7) ∨ (0x3B1 ≤ n ∧ n ≤ 0x3CB ∧ n ≠ 0x3C2) ∨
      (0x430 ≤ n ∧ n ≤ 0x44F) then Char.ofNat (n - 32)
  else if n = 0x3C2 then Char.ofNat 0x3A3
  else if n = 0xFF then Char.ofNat 0x178
  else if 0x450 ≤ n ∧ n ≤ 0x45F then Char.ofNat (n - 80)
  else if (0x100 ≤ n ∧ n ≤ 0x137 ∧ n ≠ 0x131) ∨ (0x14A ≤ n ∧ n ≤ 0x177) then
    if n % 2 = 1 then Char.ofNat (n - 1) else c
  else if (0x139 ≤ n ∧ n ≤ 0x148) ∨ (0x179 ≤ n ∧ n ≤ 0x17E) then
    if n % 2 = 0 then Char.ofNat (n - 1) else c
  else c

def lowerOf (c : Char) : Char :=
  let n := c.toNat
  if n < 0x80 then c.toLower
  else if (0xC0 ≤ n ∧ n ≤ 0xDE ∧ n ≠ 0xD7) ∨ (0x391 ≤ n ∧ n ≤ 0x3AB ∧ n ≠ 0x3A2) ∨
      (0x410 ≤ n ∧ n ≤ 0x42F) then Char.ofNat (n + 32)
  else if n = 0x178 then Char.ofNat 0xFF
  else if 0x400 ≤ n ∧ n ≤ 0x40F then Char.ofNat (n + 80)
  else if (0x100 ≤ n ∧ n ≤ 0x137 ∧ n ≠ 0x130) ∨ (0x14A ≤ n ∧ n ≤ 0x177) then
    if n % 2 = 0 then Char.ofNat (n + 1) else c
  else if (0x139 ≤ n ∧ n ≤ 0x148) ∨ (0x179 ≤ n ∧ n ≤ 0x17E) then
    if n % 2 = 1 then Char.ofNat (n + 1) else c
  else c

/-- How capital and small letters are compared. -/
inductive Casing where
  | exact
  | ascii
  | letters
  deriving DecidableEq, Repr

namespace Casing

/-- The comparison of texts with characters of one byte or of several, where capital and small
letters may be the same. -/
def of (ignored wide : Bool) : Casing :=
  if !ignored then .exact else if wide then .letters else .ascii

def forms (k : Casing) (c : Char) : List Char :=
  match k with
  | exact => [c]
  | ascii => [c, c.toLower, c.toUpper]
  | letters => [c, lowerOf c, upperOf c]

def same (k : Casing) (c d : Char) : Bool :=
  c == d || match k with
    | exact => false
    | ascii => c.toLower == d.toLower
    | letters => lowerOf c == lowerOf d || upperOf c == upperOf d

end Casing

end Text

end Conformance
