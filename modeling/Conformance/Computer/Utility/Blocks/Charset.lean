import Conformance.Computer.Text.Octets

/-!
# Character sets of punched cards

Tables that bring bytes from ASCII to EBCDIC, in two forms, and back.  Each spells the 256 bytes that
stand for the bytes in order, with two digits to base sixteen each.
-/

namespace Conformance

namespace Utility

namespace Blocks

/-- The bytes that pairs of digits spell. -/
def charactersOf (digits : String) : Array Char :=
  let rec go : List Char → List Char
    | a :: b :: rest => Char.ofNat (16 * value a + value b) :: go rest
    | _ => []
  (go digits.toList).toArray
where
  value (d : Char) : Nat := if d.isDigit then d.toNat - '0'.toNat else d.toNat - 'a'.toNat + 10

def ebcdicTable : Array Char := charactersOf <|
  "00010203372d2e2f1605250b0c0d0e0f101112133c3d322618193f271c1d1e1f" ++
  "405a7f7b5b6c507d4d5d5c4e6b604b61f0f1f2f3f4f5f6f7f8f97a5e4c7e6e6f" ++
  "7cc1c2c3c4c5c6c7c8c9d1d2d3d4d5d6d7d8d9e2e3e4e5e6e7e8e9ade0bd9a6d" ++
  "79818283848586878889919293949596979899a2a3a4a5a6a7a8a9c04fd05f07" ++
  "202122232415061728292a2b2c090a1b30311a333435360838393a3b04143ee1" ++
  "4142434445464748495152535455565758596263646566676869707172737475" ++
  "767778808a8b8c8d8e8f906a9b9c9d9e9fa0aaabac4aaeafb0b1b2b3b4b5b6b7" ++
  "b8b9babbbca1bebfcacbcccdcecfdadbdcdddedfeaebecedeeeffafbfcfdfeff"

def ibmTable : Array Char := charactersOf <|
  "00010203372d2e2f1605250b0c0d0e0f101112133c3d322618193f271c1d1e1f" ++
  "405a7f7b5b6c507d4d5d5c4e6b604b61f0f1f2f3f4f5f6f7f8f97a5e4c7e6e6f" ++
  "7cc1c2c3c4c5c6c7c8c9d1d2d3d4d5d6d7d8d9e2e3e4e5e6e7e8e9ade0bd5f6d" ++
  "79818283848586878889919293949596979899a2a3a4a5a6a7a8a9c04fd0a107" ++
  "202122232415061728292a2b2c090a1b30311a333435360838393a3b04143ee1" ++
  "4142434445464748495152535455565758596263646566676869707172737475" ++
  "767778808a8b8c8d8e8f909a9b9c9d9e9fa0aaabacadaeafb0b1b2b3b4b5b6b7" ++
  "b8b9babbbcbdbebfcacbcccdcecfdadbdcdddedfeaebecedeeeffafbfcfdfeff"

def asciiTable : Array Char := charactersOf <|
  "000102039c09867f978d8e0b0c0d0e0f101112139d8508871819928f1c1d1e1f" ++
  "80818283840a171b88898a8b8c050607909116939495960498999a9b14159e1a" ++
  "20a0a1a2a3a4a5a6a7a8d52e3c282b7c26a9aaabacadaeafb0b121242a293b7e" ++
  "2d2fb2b3b4b5b6b7b8b9cb2c255f3e3fbabbbcbdbebfc0c1c2603a2340273d22" ++
  "c3616263646566676869c4c5c6c7c8c9ca6a6b6c6d6e6f7071725ecccdcecfd0" ++
  "d1e5737475767778797ad2d3d45bd6d7d8d9dadbdcdddedfe0e1e2e3e45de6e7" ++
  "7b414243444546474849e8e9eaebeced7d4a4b4c4d4e4f505152eeeff0f1f2f3" ++
  "5c9f535455565758595af4f5f6f7f8f930313233343536373839fafbfcfdfeff"

/-- Looks each byte up in a table. -/
def translated (table : Array Char) (s : Octets) : Octets := s.map fun c => table.getD c.toNat c

end Blocks

end Utility

end Conformance
