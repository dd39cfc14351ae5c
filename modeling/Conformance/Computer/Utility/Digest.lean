import Conformance.Computer.Utility.Basic

/-!
# Digests

Short texts for messages of any length, made by mixing words of four bytes: MD5, SHA-1 and the
shorter ones of SHA-2.
-/

namespace Conformance

namespace Utility

namespace Digest

def hexDigit (n : Nat) : Char := Char.ofNat (if n < 10 then '0'.toNat + n else 'a'.toNat + n - 10)

def hexByte (n : Nat) : Octets := [hexDigit (n / 16 % 16), hexDigit (n % 16)]

/-- The bytes of a number, the least significant first. -/
def bytesLow (count n : Nat) : List Nat := (List.range count).map fun k => n / 256 ^ k % 256

/-- A message with the bits and the length that make it a whole number of blocks. -/
def padded (lowFirst : Bool) (s : List Nat) : List Nat :=
  let zeros := (119 - s.length % 64) % 64
  let size := bytesLow 8 (8 * s.length)
  s ++ 0x80 :: List.replicate zeros 0 ++ (if lowFirst then size else size.reverse)

def wordLow (b : List Nat) : UInt32 := UInt32.ofNat (b.foldr (fun x n => n * 256 + x) 0)

def wordHigh (b : List Nat) : UInt32 := UInt32.ofNat (b.foldl (fun n x => n * 256 + x) 0)

def numbersOf (s : Octets) : List Nat := s.map Char.toNat

/-- Cuts a list into pieces of a size. -/
def inPieces {α : Type} (size : Nat) (l : List α) : List (List α) :=
  (List.range ((l.length + size - 1) / max 1 size)).map fun n => (l.drop (n * size)).take size

def rotateLeft (x : UInt32) (n : UInt32) : UInt32 := (x <<< n) ||| (x >>> (32 - n))

def rotateRight (x : UInt32) (n : UInt32) : UInt32 := (x >>> n) ||| (x <<< (32 - n))

def md5Shifts : List UInt32 :=
  [7, 12, 17, 22, 5, 9, 14, 20, 4, 11, 16, 23, 6, 10, 15, 21]

def md5Constants : Array UInt32 := #[
  0xd76aa478, 0xe8c7b756, 0x242070db, 0xc1bdceee, 0xf57c0faf, 0x4787c62a, 0xa8304613, 0xfd469501,
  0x698098d8, 0x8b44f7af, 0xffff5bb1, 0x895cd7be, 0x6b901122, 0xfd987193, 0xa679438e, 0x49b40821,
  0xf61e2562, 0xc040b340, 0x265e5a51, 0xe9b6c7aa, 0xd62f105d, 0x02441453, 0xd8a1e681, 0xe7d3fbc8,
  0x21e1cde6, 0xc33707d6, 0xf4d50d87, 0x455a14ed, 0xa9e3e905, 0xfcefa3f8, 0x676f02d9, 0x8d2a4c8a,
  0xfffa3942, 0x8771f681, 0x6d9d6122, 0xfde5380c, 0xa4beea44, 0x4bdecfa9, 0xf6bb4b60, 0xbebfbc70,
  0x289b7ec6, 0xeaa127fa, 0xd4ef3085, 0x04881d05, 0xd9d4d039, 0xe6db99e5, 0x1fa27cf8, 0xc4ac5665,
  0xf4292244, 0x432aff97, 0xab9423a7, 0xfc93a039, 0x655b59c3, 0x8f0ccc92, 0xffeff47d, 0x85845dd1,
  0x6fa87e4f, 0xfe2ce6e0, 0xa3014314, 0x4e0811a1, 0xf7537e82, 0xbd3af235, 0x2ad7d2bb, 0xeb86d391]

def md5Block (state : List UInt32) (block : List Nat) : List UInt32 :=
  match state with
  | [a0, b0, c0, d0] =>
      let m := ((inPieces 4 block).map wordLow).toArray
      let (a, b, c, d) := (List.range 64).foldl
        (fun ((a, b, c, d) : UInt32 × UInt32 × UInt32 × UInt32) i =>
          let (f, g) := match i / 16 with
            | 0 => ((b &&& c) ||| ((~~~ b) &&& d), i)
            | 1 => ((d &&& b) ||| ((~~~ d) &&& c), (5 * i + 1) % 16)
            | 2 => (b ^^^ c ^^^ d, (3 * i + 5) % 16)
            | _ => (c ^^^ (b ||| (~~~ d)), 7 * i % 16)
          let sum := f + a + (md5Constants[i]?).getD 0 + (m[g]?).getD 0
          (d, b + rotateLeft sum (md5Shifts.getD (i / 16 * 4 + i % 4) 0), b, c)) (a0, b0, c0, d0)
      [a0 + a, b0 + b, c0 + c, d0 + d]
  | state => state

def md5 (s : List Nat) : List Nat :=
  let state := (inPieces 64 (padded true s)).foldl md5Block
    [0x67452301, 0xefcdab89, 0x98badcfe, 0x10325476]
  state.flatMap fun w => bytesLow 4 w.toNat

def sha1Block (state : List UInt32) (block : List Nat) : List UInt32 :=
  match state with
  | [a0, b0, c0, d0, e0] =>
      let first := ((inPieces 4 block).map wordHigh).toArray
      let w := (List.range 64).foldl (fun (w : Array UInt32) k =>
        let at' (n : Nat) : UInt32 := (w[n]?).getD 0
        w.push (rotateLeft (at' (k + 13) ^^^ at' (k + 8) ^^^ at' (k + 2) ^^^ at' k) 1)) first
      let (a, b, c, d, e) := (List.range 80).foldl
        (fun ((a, b, c, d, e) : UInt32 × UInt32 × UInt32 × UInt32 × UInt32) i =>
          let (f, k) : UInt32 × UInt32 := match i / 20 with
            | 0 => ((b &&& c) ||| ((~~~ b) &&& d), 0x5a827999)
            | 1 => (b ^^^ c ^^^ d, 0x6ed9eba1)
            | 2 => ((b &&& c) ||| (b &&& d) ||| (c &&& d), 0x8f1bbcdc)
            | _ => (b ^^^ c ^^^ d, 0xca62c1d6)
          (rotateLeft a 5 + f + e + k + (w[i]?).getD 0, a, rotateLeft b 30, c, d))
        (a0, b0, c0, d0, e0)
      [a0 + a, b0 + b, c0 + c, d0 + d, e0 + e]
  | state => state

/-- The bytes of words, the most significant first. -/
def wordBytes (state : List UInt32) : List Nat :=
  state.flatMap fun w => (bytesLow 4 w.toNat).reverse

def sha1 (s : List Nat) : List Nat :=
  wordBytes ((inPieces 64 (padded false s)).foldl sha1Block
    [0x67452301, 0xefcdab89, 0x98badcfe, 0x10325476, 0xc3d2e1f0])

def sha256Constants : Array UInt32 := #[
  0x428a2f98, 0x71374491, 0xb5c0fbcf, 0xe9b5dba5, 0x3956c25b, 0x59f111f1, 0x923f82a4, 0xab1c5ed5,
  0xd807aa98, 0x12835b01, 0x243185be, 0x550c7dc3, 0x72be5d74, 0x80deb1fe, 0x9bdc06a7, 0xc19bf174,
  0xe49b69c1, 0xefbe4786, 0x0fc19dc6, 0x240ca1cc, 0x2de92c6f, 0x4a7484aa, 0x5cb0a9dc, 0x76f988da,
  0x983e5152, 0xa831c66d, 0xb00327c8, 0xbf597fc7, 0xc6e00bf3, 0xd5a79147, 0x06ca6351, 0x14292967,
  0x27b70a85, 0x2e1b2138, 0x4d2c6dfc, 0x53380d13, 0x650a7354, 0x766a0abb, 0x81c2c92e, 0x92722c85,
  0xa2bfe8a1, 0xa81a664b, 0xc24b8b70, 0xc76c51a3, 0xd192e819, 0xd6990624, 0xf40e3585, 0x106aa070,
  0x19a4c116, 0x1e376c08, 0x2748774c, 0x34b0bcb5, 0x391c0cb3, 0x4ed8aa4a, 0x5b9cca4f, 0x682e6ff3,
  0x748f82ee, 0x78a5636f, 0x84c87814, 0x8cc70208, 0x90befffa, 0xa4506ceb, 0xbef9a3f7, 0xc67178f2]

def sha256Block (state : List UInt32) (block : List Nat) : List UInt32 :=
  match state with
  | [a0, b0, c0, d0, e0, f0, g0, h0] =>
      let first := ((inPieces 4 block).map wordHigh).toArray
      let w := (List.range 48).foldl (fun (w : Array UInt32) k =>
        let x := (w[k + 1]?).getD 0
        let y := (w[k + 14]?).getD 0
        let s0 := rotateRight x 7 ^^^ rotateRight x 18 ^^^ (x >>> 3)
        let s1 := rotateRight y 17 ^^^ rotateRight y 19 ^^^ (y >>> 10)
        w.push ((w[k]?).getD 0 + s0 + (w[k + 9]?).getD 0 + s1)) first
      let result := (List.range 64).foldl (fun (v : List UInt32) i =>
        match v with
        | [a, b, c, d, e, f, g, h] =>
            let s1 := rotateRight e 6 ^^^ rotateRight e 11 ^^^ rotateRight e 25
            let choice := (e &&& f) ^^^ ((~~~ e) &&& g)
            let t1 := h + s1 + choice + (sha256Constants[i]?).getD 0 + (w[i]?).getD 0
            let s0 := rotateRight a 2 ^^^ rotateRight a 13 ^^^ rotateRight a 22
            let majority := (a &&& b) ^^^ (a &&& c) ^^^ (b &&& c)
            [t1 + s0 + majority, a, b, c, d + t1, e, f, g]
        | v => v) [a0, b0, c0, d0, e0, f0, g0, h0]
      ([a0, b0, c0, d0, e0, f0, g0, h0].zip result).map fun (x, y) => x + y
  | state => state

def sha256 (s : List Nat) : List Nat :=
  wordBytes ((inPieces 64 (padded false s)).foldl sha256Block
    [0x6a09e667, 0xbb67ae85, 0x3c6ef372, 0xa54ff53a, 0x510e527f, 0x9b05688c, 0x1f83d9ab, 0x5be0cd19])

def sha224 (s : List Nat) : List Nat :=
  wordBytes (((inPieces 64 (padded false s)).foldl sha256Block
    [0xc1059ed8, 0x367cd507, 0x3070dd17, 0xf70e5939, 0xffc00b31, 0x68581511,
      0x64f98fa7, 0xbefa4fa4]).take 7)

end Digest

end Utility

end Conformance
