import Conformance.Computer.Utility.Digest

/-!
# Encodings

The programs `base64` and `base32`, which write bytes with few kinds of characters.  Digits stand
for six or for five bits; signs of equality fill the last group up.
-/

namespace Conformance

namespace Utility

namespace Encoding

open Digest

def base64Digits : Array Char :=
  "ABCDEFGHIJKLMNOPQRSTUVWXYZabcdefghijklmnopqrstuvwxyz0123456789+/".toList.toArray

def base32Digits : Array Char := "ABCDEFGHIJKLMNOPQRSTUVWXYZ234567".toList.toArray

def encodeGroup (digits : Array Char) (bits size : Nat) (group : List Nat) : Octets :=
  let n := (group ++ List.replicate (bits * size / 8 - group.length) 0).foldl
    (fun n x => n * 256 + x) 0
  let used := (8 * group.length + bits - 1) / bits
  (List.range size).map fun k =>
    if k < used then (digits[n / 2 ^ (bits * (size - 1 - k)) % 2 ^ bits]?).getD 'A' else '='

def encode64 (s : List Nat) : Octets := (inPieces 3 s).flatMap (encodeGroup base64Digits 6 4)

def encode32 (s : List Nat) : Octets := (inPieces 5 s).flatMap (encodeGroup base32Digits 5 8)

def decodeGroup (digits : Array Char) (bits size : Nat) (group : Octets) : List Nat × Bool :=
  let values := (group.takeWhile (· != '=')).map fun ch => digits.toList.findIdx? (· == ch)
  let good := values.takeWhile Option.isSome
  let n := (good.filterMap id).foldl (fun n x => n * 2 ^ bits + x) 0
  let whole := bits * good.length / 8
  let left := bits * good.length - 8 * whole
  let bytes := (List.range whole).map fun k => n / 2 ^ (left + 8 * (whole - 1 - k)) % 256
  let padding := group.drop good.length
  let isFull := group.length = size && padding.all (· == '=') && left < bits && whole > 0
  (bytes, isFull && (padding.isEmpty || (8 * whole + bits - 1) / bits = good.length))

/-- The bytes that digits spell, and whether all of them were good.  Nothing may stand behind a group
that is filled up. -/
def decode (digits : Array Char) (bits size : Nat) (fuel : Nat) (s : Octets) : List Nat × Bool :=
  match fuel, s with
  | 0, _ | _, [] => ([], true)
  | fuel + 1, s =>
      let group := s.take size
      let (bytes, good) := decodeGroup digits bits size group
      if !good then (bytes, false)
      else
        let (more, good) := decode digits bits size fuel (s.drop size)
        (bytes ++ more, good)

/-- A text in lines of a width; a width of zero leaves it whole. -/
def wrapped (width : Nat) (s : Octets) : Octets :=
  if width = 0 || s.isEmpty then s
  else (inPieces width s).flatMap fun l => l ++ ['\n']

/-- A program that writes bytes with digits, or reads them. -/
def coding (program : String) (digits : Array Char) (bits size : Nat) (c : Context) : Answer :=
  let long : List (String × Char × Arity) :=
    [("decode", 'd', .flag), ("ignore-garbage", 'i', .flag), ("wrap", 'w', .required)]
  withOptions c program 1 "diw:" long fun o =>
    match readNat? ((o.value? 'w').getD ['7', '6']) with
    | none =>
        .failure c 1 (program.toList ++ ": invalid wrap size: ".toList ++
          quoted c ((o.value? 'w').getD []))
    | some width =>
      match o.operands with
      | _ :: extra :: _ => extraOperand c program extra
      | files =>
        withContents c files fun contents =>
          match contents with
          | [(_, .ok s)] =>
              if o.has 'd' then
                let isDigit (ch : Char) : Bool := digits.contains ch || ch == '='
                let kept := s.filter fun ch => if o.has 'i' then isDigit ch else ch != '\n'
                let (bytes, good) := decode digits bits size (kept.length + 1) kept
                let out := Print.out (bytes.map fun n => Char.ofNat (n % 256))
                if good then .ends ⟨[out], 0, c.tree⟩
                else .ends ⟨[out, .err (program.toList ++ ": invalid input\n".toList)], 1, c.tree⟩
              else
                .ok c (wrapped width
                  ((inPieces (bits * size / 8) (numbersOf s)).flatMap (encodeGroup digits bits size)))
          | (file, .error e) :: _ =>
              if e = .os .isDirectory then
                .failure c 1 (program.toList ++ ": read error: Is a directory".toList)
              else .ends ⟨[unreadable program file e], 1, c.tree⟩
          | _ => .status c 0

def base64 : Context → Answer := coding "base64" base64Digits 6 4

def base32 : Context → Answer := coding "base32" base32Digits 5 8

end Encoding

end Utility

end Conformance
