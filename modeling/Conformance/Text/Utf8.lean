import Conformance.Instances

/-!
# UTF-8

A decoder that reads one byte at a time.  Between bytes it either stands at the boundary of a
character or owes continuation bytes, the next of which must lie in a range that rules out overlong
forms, surrogates and code points beyond U+10FFFF.  A byte outside that range ends the unfinished
character, which counts as one malformed part, and is then read again as a first byte.
-/

namespace Conformance

abbrev Bytes := List UInt8

namespace Text

namespace Utf8

/-- An unfinished character: the continuation bytes it still owes, the range of the next one, and
the bits read so far. -/
structure Unfinished where
  owed : Nat
  least : UInt8
  greatest : UInt8
  bits : Nat
  deriving DecidableEq, Repr

/-- What the decoder has read, newest first, with `none` for a malformed part, and where it
stands. -/
structure Decoder where
  read : List (Option Char)
  unfinished : Option Unfinished
  deriving DecidableEq, Repr

def Decoder.start : Decoder := ⟨[], none⟩

/-- Reads a byte at the boundary of a character. -/
def Decoder.first (read : List (Option Char)) (b : UInt8) : Decoder :=
  let n := b.toNat
  if n < 0x80 then ⟨some (Char.ofNat n) :: read, none⟩
  else if n < 0xC2 then ⟨none :: read, none⟩
  else if n < 0xE0 then ⟨read, some ⟨1, 0x80, 0xBF, n - 0xC0⟩⟩
  else if n = 0xE0 then ⟨read, some ⟨2, 0xA0, 0xBF, 0⟩⟩
  else if n = 0xED then ⟨read, some ⟨2, 0x80, 0x9F, 0x0D⟩⟩
  else if n < 0xF0 then ⟨read, some ⟨2, 0x80, 0xBF, n - 0xE0⟩⟩
  else if n = 0xF0 then ⟨read, some ⟨3, 0x90, 0xBF, 0⟩⟩
  else if n < 0xF4 then ⟨read, some ⟨3, 0x80, 0xBF, n - 0xF0⟩⟩
  else if n = 0xF4 then ⟨read, some ⟨3, 0x80, 0x8F, 4⟩⟩
  else ⟨none :: read, none⟩

def Decoder.push (d : Decoder) (b : UInt8) : Decoder :=
  match d.unfinished with
  | none => Decoder.first d.read b
  | some u =>
      if u.least ≤ b ∧ b ≤ u.greatest then
        let bits := u.bits * 64 + (b.toNat - 0x80)
        if u.owed ≤ 1 then ⟨some (Char.ofNat bits) :: d.read, none⟩
        else ⟨d.read, some ⟨u.owed - 1, 0x80, 0xBF, bits⟩⟩
      else Decoder.first (none :: d.read) b

/-- Everything read, oldest first; an unfinished character at the end is malformed. -/
def Decoder.finish (d : Decoder) : List (Option Char) :=
  match d.unfinished with
  | none => d.read.reverse
  | some _ => (none :: d.read).reverse

/-- The characters of `bytes`, with `none` for each malformed part. -/
def parts (bytes : Bytes) : List (Option Char) :=
  (bytes.foldl Decoder.push Decoder.start).finish

/-- The character that stands for a malformed part. -/
def replacement : Char := '\uFFFD'

/-- Decodes any bytes; each malformed part becomes one replacement character. -/
def decodeLossy (bytes : Bytes) : List Char :=
  (parts bytes).map (·.getD replacement)

/-- Decodes bytes that hold no malformed part. -/
def decode? (bytes : Bytes) : Option (List Char) :=
  let ps := parts bytes
  if ps.all Option.isSome then some (ps.filterMap id) else none

def encode (s : List Char) : Bytes :=
  s.flatMap String.utf8EncodeChar

/-- The bytes that the pattern of the encoding gives a number of up to 31 bits, be it that of a
character or not: a first byte that tells how many there are, and six bits in each of the
others. -/
def pattern (n : Nat) : Bytes :=
  let tail (i : Nat) : UInt8 := UInt8.ofNat (0x80 + n / 64 ^ i % 64)
  let sequence (mark count : Nat) : Bytes :=
    UInt8.ofNat (mark + n / 64 ^ count) :: ((List.range count).reverse.map tail)
  if n < 0x80 then [UInt8.ofNat n]
  else if n < 0x800 then sequence 0xC0 1
  else if n < 0x10000 then sequence 0xE0 2
  else if n < 0x200000 then sequence 0xF0 3
  else if n < 0x4000000 then sequence 0xF8 4
  else if n < 0x80000000 then sequence 0xFC 5
  else []

end Utf8

end Text

end Conformance
