import Conformance.Computer.Utility.Digest

/-!
# Longer digests

Digests that mix words of eight bytes: the longer ones of SHA-2, and BLAKE2b.
-/

namespace Conformance

namespace Utility

namespace Digest

/-- The bytes of a word, the most significant first. -/
def longBytes (w : UInt64) : List Nat := (bytesLow 8 w.toNat).reverse

def longWord (b : List Nat) : UInt64 := UInt64.ofNat (b.foldl (fun n x => n * 256 + x) 0)

def turnRight (x n : UInt64) : UInt64 := (x >>> n) ||| (x <<< (64 - n))

/-! ## SHA-2 -/

/-- A message with the bits and the length that make it a whole number of long blocks. -/
def longPadded (s : List Nat) : List Nat :=
  let zeros := (239 - s.length % 128) % 128
  s ++ 0x80 :: List.replicate zeros 0 ++ (bytesLow 16 (8 * s.length)).reverse

def sha512Constants : Array UInt64 := #[
  0x428a2f98d728ae22, 0x7137449123ef65cd, 0xb5c0fbcfec4d3b2f, 0xe9b5dba58189dbbc,
  0x3956c25bf348b538, 0x59f111f1b605d019, 0x923f82a4af194f9b, 0xab1c5ed5da6d8118,
  0xd807aa98a3030242, 0x12835b0145706fbe, 0x243185be4ee4b28c, 0x550c7dc3d5ffb4e2,
  0x72be5d74f27b896f, 0x80deb1fe3b1696b1, 0x9bdc06a725c71235, 0xc19bf174cf692694,
  0xe49b69c19ef14ad2, 0xefbe4786384f25e3, 0x0fc19dc68b8cd5b5, 0x240ca1cc77ac9c65,
  0x2de92c6f592b0275, 0x4a7484aa6ea6e483, 0x5cb0a9dcbd41fbd4, 0x76f988da831153b5,
  0x983e5152ee66dfab, 0xa831c66d2db43210, 0xb00327c898fb213f, 0xbf597fc7beef0ee4,
  0xc6e00bf33da88fc2, 0xd5a79147930aa725, 0x06ca6351e003826f, 0x142929670a0e6e70,
  0x27b70a8546d22ffc, 0x2e1b21385c26c926, 0x4d2c6dfc5ac42aed, 0x53380d139d95b3df,
  0x650a73548baf63de, 0x766a0abb3c77b2a8, 0x81c2c92e47edaee6, 0x92722c851482353b,
  0xa2bfe8a14cf10364, 0xa81a664bbc423001, 0xc24b8b70d0f89791, 0xc76c51a30654be30,
  0xd192e819d6ef5218, 0xd69906245565a910, 0xf40e35855771202a, 0x106aa07032bbd1b8,
  0x19a4c116b8d2d0c8, 0x1e376c085141ab53, 0x2748774cdf8eeb99, 0x34b0bcb5e19b48a8,
  0x391c0cb3c5c95a63, 0x4ed8aa4ae3418acb, 0x5b9cca4f7763e373, 0x682e6ff3d6b2b8a3,
  0x748f82ee5defb2fc, 0x78a5636f43172f60, 0x84c87814a1f0ab72, 0x8cc702081a6439ec,
  0x90befffa23631e28, 0xa4506cebde82bde9, 0xbef9a3f7b2c67915, 0xc67178f2e372532b,
  0xca273eceea26619c, 0xd186b8c721c0c207, 0xeada7dd6cde0eb1e, 0xf57d4f7fee6ed178,
  0x06f067aa72176fba, 0x0a637dc5a2c898a6, 0x113f9804bef90dae, 0x1b710b35131c471b,
  0x28db77f523047d84, 0x32caab7b40c72493, 0x3c9ebe0a15c9bebc, 0x431d67c49c100d4c,
  0x4cc5d4becb3e42b6, 0x597f299cfc657e2a, 0x5fcb6fab3ad6faec, 0x6c44198c4a475817]

def sha512Block (state : List UInt64) (block : List Nat) : List UInt64 :=
  match state with
  | [a0, b0, c0, d0, e0, f0, g0, h0] =>
      let first := ((inPieces 8 block).map longWord).toArray
      let w := (List.range 64).foldl (fun (w : Array UInt64) k =>
        let x := (w[k + 1]?).getD 0
        let y := (w[k + 14]?).getD 0
        let s0 := turnRight x 1 ^^^ turnRight x 8 ^^^ (x >>> 7)
        let s1 := turnRight y 19 ^^^ turnRight y 61 ^^^ (y >>> 6)
        w.push ((w[k]?).getD 0 + s0 + (w[k + 9]?).getD 0 + s1)) first
      let result := (List.range 80).foldl (fun (v : List UInt64) i =>
        match v with
        | [a, b, c, d, e, f, g, h] =>
            let s1 := turnRight e 14 ^^^ turnRight e 18 ^^^ turnRight e 41
            let choice := (e &&& f) ^^^ ((~~~ e) &&& g)
            let t1 := h + s1 + choice + (sha512Constants[i]?).getD 0 + (w[i]?).getD 0
            let s0 := turnRight a 28 ^^^ turnRight a 34 ^^^ turnRight a 39
            let majority := (a &&& b) ^^^ (a &&& c) ^^^ (b &&& c)
            [t1 + s0 + majority, a, b, c, d + t1, e, f, g]
        | v => v) [a0, b0, c0, d0, e0, f0, g0, h0]
      ([a0, b0, c0, d0, e0, f0, g0, h0].zip result).map fun (x, y) => x + y
  | state => state

def sha512Start : List UInt64 := [
  0x6a09e667f3bcc908, 0xbb67ae8584caa73b, 0x3c6ef372fe94f82b, 0xa54ff53a5f1d36f1,
  0x510e527fade682d1, 0x9b05688c2b3e6c1f, 0x1f83d9abfb41bd6b, 0x5be0cd19137e2179]

def sha512 (s : List Nat) : List Nat :=
  ((inPieces 128 (longPadded s)).foldl sha512Block sha512Start).flatMap longBytes

def sha384Start : List UInt64 := [
  0xcbbb9d5dc1059ed8, 0x629a292a367cd507, 0x9159015a3070dd17, 0x152fecd8f70e5939,
  0x67332667ffc00b31, 0x8eb44a8768581511, 0xdb0c2e0d64f98fa7, 0x47b5481dbefa4fa4]

def sha384 (s : List Nat) : List Nat :=
  (((inPieces 128 (longPadded s)).foldl sha512Block sha384Start).take 6).flatMap longBytes

/-! ## BLAKE2 -/

/-- In which order a round takes the words of a block. -/
def blakeOrders : List (List Nat) := [
  [0, 1, 2, 3, 4, 5, 6, 7, 8, 9, 10, 11, 12, 13, 14, 15],
  [14, 10, 4, 8, 9, 15, 13, 6, 1, 12, 0, 2, 11, 7, 5, 3],
  [11, 8, 12, 0, 5, 2, 15, 13, 10, 14, 3, 6, 7, 1, 9, 4],
  [7, 9, 3, 1, 13, 12, 11, 14, 2, 6, 5, 10, 4, 0, 15, 8],
  [9, 0, 5, 7, 2, 4, 10, 15, 14, 1, 11, 12, 6, 8, 3, 13],
  [2, 12, 6, 10, 0, 11, 8, 3, 4, 13, 7, 5, 15, 14, 1, 9],
  [12, 5, 1, 15, 14, 13, 4, 10, 0, 7, 6, 3, 9, 2, 8, 11],
  [13, 11, 7, 14, 12, 1, 3, 9, 5, 0, 15, 4, 8, 6, 2, 10],
  [6, 15, 14, 9, 11, 3, 0, 8, 12, 2, 13, 7, 1, 4, 10, 5],
  [10, 2, 8, 4, 7, 6, 1, 5, 15, 11, 9, 14, 3, 12, 13, 0]]

/-- The places of the four words that each step of a round mixes. -/
def blakePlaces : List (Nat × Nat × Nat × Nat) :=
  [(0, 4, 8, 12), (1, 5, 9, 13), (2, 6, 10, 14), (3, 7, 11, 15), (0, 5, 10, 15), (1, 6, 11, 12),
    (2, 7, 8, 13), (3, 4, 9, 14)]

def blakeMix (v : Array UInt64) (places : Nat × Nat × Nat × Nat) (x y : UInt64) : Array UInt64 :=
  let (i, j, k, l) := places
  let at' (n : Nat) : UInt64 := (v[n]?).getD 0
  let a := at' i + at' j + x
  let d := turnRight (at' l ^^^ a) 32
  let c := at' k + d
  let b := turnRight (at' j ^^^ c) 24
  let a := a + b + y
  let d := turnRight (d ^^^ a) 16
  let c := c + d
  let b := turnRight (b ^^^ c) 63
  (((v.setIfInBounds i a).setIfInBounds j b).setIfInBounds k c).setIfInBounds l d

/-- Mixes a block into the state; `count` is the number of bytes up to its end. -/
def blakeBlock (state : List UInt64) (block : List Nat) (count : Nat) (isLast : Bool) :
    List UInt64 :=
  let words := ((inPieces 8 block).map fun b => longWord b.reverse).toArray
  let start := (state ++ sha512Start).toArray
  let start := start.modify 12 (· ^^^ UInt64.ofNat count)
  let start := if isLast then start.modify 14 (~~~ ·) else start
  let v := (List.range 12).foldl (fun v round =>
    let order := blakeOrders.getD (round % 10) []
    blakePlaces.zipIdx.foldl (fun v (places, n) =>
      let word (k : Nat) : UInt64 := (words[order.getD k 0]?).getD 0
      blakeMix v places (word (2 * n)) (word (2 * n + 1))) v) start
  state.zipIdx.map fun (x, n) => x ^^^ (v[n]?).getD 0 ^^^ (v[n + 8]?).getD 0

def blake2b (size : Nat) (s : List Nat) : List Nat :=
  let start := match sha512Start with
    | x :: rest => (x ^^^ 0x01010000 ^^^ UInt64.ofNat size) :: rest
    | [] => []
  let blocks := if s.isEmpty then [[]] else inPieces 128 s
  let state := blocks.zipIdx.foldl (fun state (block, n) =>
    let isLast := n + 1 = blocks.length
    blakeBlock state (block ++ List.replicate (128 - block.length) 0)
      (if isLast then s.length else 128 * (n + 1)) isLast) start
  (state.flatMap fun w => bytesLow 8 w.toNat).take size

end Digest

end Utility

end Conformance
