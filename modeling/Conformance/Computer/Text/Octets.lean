import Conformance.Text.Utf8

/-!
# Octets as characters

Scripts and command output are bytes.  They are handled as lists of characters below U+0100, one
for each byte, so that they can be matched with character literals.
-/

namespace Conformance

abbrev Octets := List Char

namespace Octets

def ofBytes (b : Bytes) : Octets := b.map fun x => Char.ofNat x.toNat

def toBytes (s : Octets) : Bytes := s.map fun c => UInt8.ofNat c.toNat

def ofString (s : String) : Octets := ofBytes (Text.Utf8.encode s.toList)

def toText (s : Octets) : String := String.ofList (Text.Utf8.decodeLossy (toBytes s))

def ofNat (n : Nat) : Octets := (toString n).toList

/-- A number in base sixteen behind the letter that tells how many digits it has. -/
def spelledCode (n : Nat) : Octets :=
  let digits := (Nat.toDigits 16 n).map Char.toUpper
  let (letter, width) := if n < 0x10000 then ('u', 4) else ('U', 8)
  '\\' :: letter :: List.replicate (width - digits.length) '0' ++ digits

/-- The bytes for the number of a character; where texts have no wide characters it is spelled
out. -/
def ofCode (wide : Bool) (n : Nat) : Octets :=
  if wide || n < 128 then ofBytes (Text.Utf8.pattern n) else spelledCode n

def lines (s : Octets) : List Octets :=
  let parts := s.foldr (fun c parts =>
    if c == '\n' then [] :: parts
    else match parts with
      | [] => [[c]]
      | part :: rest => (c :: part) :: rest) [[]]
  if parts.getLast? == some [] then parts.dropLast else parts

def unlines (l : List Octets) : Octets := l.flatMap (· ++ ['\n'])

def chomp (s : Octets) : Octets := (s.reverse.dropWhile (· == '\n')).reverse

/-! ## Characters of more than one byte -/

/-- The character that a well-formed sequence at the front of a text spells, and its length. -/
def charAt? (s : Octets) : Option (Char × Nat) :=
  let tail (c : Char) : Bool := 0x80 ≤ c.toNat && c.toNat ≤ 0xBF
  let low (c : Char) : Nat := c.toNat % 64
  match s with
  | [] => none
  | a :: rest =>
      let n := a.toNat
      if n < 0x80 then some (a, 1)
      else match rest with
        | [] => none
        | b :: rest =>
            if !tail b || n < 0xC2 || n > 0xF4 then none
            else if n < 0xE0 then some (Char.ofNat (n % 32 * 64 + low b), 2)
            else match rest with
              | [] => none
              | c :: rest =>
                  if !tail c then none
                  else if n < 0xF0 then
                    if (n = 0xE0 && b.toNat < 0xA0) || (n = 0xED && b.toNat > 0x9F) then none
                    else some (Char.ofNat ((n % 16 * 64 + low b) * 64 + low c), 3)
                  else match rest with
                    | [] => none
                    | d :: _ =>
                        if !tail d || (n = 0xF0 && b.toNat < 0x90) ||
                            (n = 0xF4 && b.toNat > 0x8F) then none
                        else some (Char.ofNat
                          (((n % 8 * 64 + low b) * 64 + low c) * 64 + low d), 4)

/-- Where the stand-ins for bytes begin that are part of no character. -/
def strayBase : Nat := 0x10FF00

/-- The characters of a text.  A byte that is part of none has a stand-in from a private area. -/
def toWide (s : Octets) : List Char :=
  go s.length s
where
  go (fuel : Nat) (s : Octets) : List Char :=
    match fuel, s with
    | 0, _ | _, [] => []
    | fuel + 1, a :: rest =>
        match charAt? (a :: rest) with
        | some (c, n) => c :: go fuel (rest.drop (n - 1))
        | none => Char.ofNat (strayBase + a.toNat) :: go fuel rest

def ofWide (s : List Char) : Octets :=
  s.flatMap fun c =>
    if c.toNat < 0x80 then [c]
    else if c.toNat ≥ strayBase && c.toNat < strayBase + 256 then
      [Char.ofNat (c.toNat - strayBase)]
    else ofBytes (Text.Utf8.encode [c])

end Octets

end Conformance
