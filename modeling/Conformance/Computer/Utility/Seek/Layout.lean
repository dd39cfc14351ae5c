import Conformance.Computer.Utility.Seek.Condition

/-!
# Entries as text

How a search shows what it has found: in lines as long lists have them, and in formats with letters
behind percent signs.
-/

namespace Conformance

namespace Utility

namespace Seek

/-! ## Reading formats -/

/-- A letter behind a backslash, and how many characters it takes. -/
def escape (rest : Octets) : Option (Octets × Nat) :=
  match rest with
  | [] => none
  | letter :: _ =>
      if Format.isOctal letter then
        let (c, n) := Format.octal 3 rest
        some ([c], n)
      else match letter with
        | 'a' => some (['\x07'], 1)
        | 'b' => some (['\x08'], 1)
        | 'f' => some (['\x0c'], 1)
        | 'n' => some (['\n'], 1)
        | 'r' => some (['\r'], 1)
        | 't' => some (['\t'], 1)
        | 'v' => some (['\x0b'], 1)
        | '\\' => some (['\\'], 1)
        | _ => none

def isItem (c : Char) : Bool := "abcdDfFghHiklmMnpPsStuUyYZ".toList.contains c

def hasDetail (c : Char) : Bool := c == 'A' || c == 'B' || c == 'C' || c == 'T'

/-- The parts of a format; fuel bounds its length. -/
def readFormat (fuel : Nat) (s : Octets) : List Piece :=
  match fuel, s with
  | 0, _ | _, [] => []
  | fuel + 1, '\\' :: rest =>
      if rest.head? == some 'c' then [.stop]
      else match escape rest with
        | some (text, n) => .text text :: readFormat fuel (rest.drop n)
        | none => .text ['\\'] :: readFormat fuel rest
  | fuel + 1, '%' :: rest =>
      let flags := rest.takeWhile "-+ #0".toList.contains
      let digits := (rest.drop flags.length).takeWhile Char.isDigit
      let rest' := rest.drop (flags.length + digits.length)
      let places := match rest' with
        | '.' :: more => more.takeWhile Char.isDigit
        | _ => []
      let dotted := rest'.head? == some '.'
      let field : Format.Field :=
        ⟨flags, (readNat? digits).getD 0, if dotted then some ((readNat? places).getD 0) else none⟩
      match rest'.drop (if dotted then places.length + 1 else 0) with
      | '%' :: rest => .text ['%'] :: readFormat fuel rest
      | letter :: rest =>
          if hasDetail letter then
            match rest with
            | detail :: rest => .item field letter detail :: readFormat fuel rest
            | [] => [.text ['%', letter]]
          else if isItem letter then .item field letter ' ' :: readFormat fuel rest
          else .text ('%' :: flags ++ digits ++ [letter]) :: readFormat fuel rest
      | [] => [.text ['%']]
  | fuel + 1, c :: rest => .text [c] :: readFormat fuel rest

/-! ## Filling in -/

def timePart (micros : Nat) (detail : Char) : Octets :=
  let seconds : Int := ((micros / 1000000 : Nat) : Int)
  let nanos := micros % 1000000 * 1000
  let text (format : String) : Octets :=
    Format.dateText seconds nanos (format.length + 1) format.toList
  match detail with
  | '@' => text "%s.%N0"
  | '+' => text "%Y-%m-%d+%H:%M:%S.%N0"
  | 'S' => text "%S.%N0"
  | 'T' | 'X' => text "%H:%M:%S.%N0"
  | 'c' => text "%a %b %e %H:%M:%S.%N0 %Y"
  | detail => Format.dateText seconds nanos 3 ['%', detail]

def itemText (t : FileTree) (v : Visit) (f : Format.Field) (letter detail : Char) : Octets :=
  let n := v.node
  match letter with
  | 'p' => v.file
  | 'f' => v.name
  | 'h' => v.directory
  | 'P' => v.inner
  | 'H' => v.origin
  | 's' => Octets.ofNat (Directory.sizeOf n)
  | 'd' => Octets.ofNat v.depth
  | 'm' => (if f.has '#' then ['0'] else []) ++ Nat.toDigits 8 n.stamp.mode
  | 'M' => Directory.typeLetter n.entry :: Files.modeLetters n.stamp.mode
  | 'n' => Octets.ofNat (Directory.linkCount t n)
  | 'i' => Octets.ofNat n.stamp.number
  | 'u' | 'g' => Person.userName
  | 'U' | 'G' | 'D' => ['0']
  | 'b' => Octets.ofNat (2 * Directory.blocksOf n)
  | 'k' => Octets.ofNat (Directory.blocksOf n)
  | 'l' => match n.entry with
      | .link target => Octets.ofString target.text
      | _ => []
  | 'y' => [kindLetter n.entry]
  | 'Y' => match n.entry with
      | .link target =>
          match t.lookup n.location.dropLast target true with
          | .ok (_, e) => [kindLetter e]
          | .error e => if e = .os .linkLoop then ['L'] else ['N']
      | e => [kindLetter e]
  | 'A' => timePart n.stamp.accessed detail
  | 'B' | 'C' => timePart n.stamp.altered detail
  | 'T' => timePart n.stamp.time detail
  | 'a' => timePart n.stamp.accessed 'c'
  | 'c' => timePart n.stamp.altered 'c'
  | 't' => timePart n.stamp.time 'c'
  | 'F' => "overlay".toList
  | 'S' => ['1']
  | _ => []

def fill (t : FileTree) (v : Visit) : List Piece → Octets
  | [] | .stop :: _ => []
  | .text s :: rest => s ++ fill t v rest
  | .item f letter detail :: rest =>
      let s := itemText t v f letter detail
      f.pad (s.take (f.precision.getD s.length)) ++ fill t v rest

def longLine (c : Context) (t : FileTree) (v : Visit) : Octets :=
  let n := v.node
  let seconds := n.stamp.time / 1000000
  let recent := c.now / 1000000 < seconds + 15552000 && seconds < c.now / 1000000 + 3600
  let format := if recent then "%b %e %H:%M" else "%b %e  %Y"
  let arrow := match n.entry with
    | .link target => " -> ".toList ++ Directory.escapedName true (Octets.ofString target.text)
    | _ => []
  padLeft 9 (Octets.ofNat n.stamp.number) ++ ' ' :: padLeft 6 (Octets.ofNat (Directory.blocksOf n)) ++
    ' ' :: Directory.typeLetter n.entry :: Files.modeLetters n.stamp.mode ++ ' ' ::
    padLeft 3 (Octets.ofNat (Directory.linkCount t n)) ++ ' ' ::
    padRight 8 Person.userName ++ ' ' :: padRight 8 Person.userName ++ ' ' ::
    padLeft 8 (Octets.ofNat (Directory.sizeOf n)) ++ ' ' ::
    Format.dateText (seconds : Int) 0 (format.length + 1) format.toList ++ ' ' ::
    Directory.escapedName true v.file ++ arrow ++ ['\n']

end Seek

end Utility

end Conformance
