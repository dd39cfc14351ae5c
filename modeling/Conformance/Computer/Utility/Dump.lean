import Conformance.Computer.Text.Fraction
import Conformance.Computer.Utility.Digest
import Conformance.Computer.Utility.Excerpt

/-!
# Dumps

The program `od`, which shows the bytes of files as numbers or by name.
-/

namespace Conformance

namespace Utility

namespace Dump

open Digest

/-- How bytes are shown: by name, as characters, or as numbers of a size, whole ones in a base or
fractions. -/
inductive Form where
  | name
  | char
  | number (base : Nat) (signed : Bool) (size : Nat)
  | fraction (size : Nat)
  deriving DecidableEq, Repr

def Form.size : Form → Nat
  | .name | .char => 1
  | .number _ _ size | .fraction size => size

def Form.width : Form → Nat
  | .name | .char => 4
  | .number 16 _ size => 2 * size + 1
  | .number 8 _ size => (8 * size + 2) / 3 + 1
  | .number _ signed size =>
      let digits := match size with
        | 1 => 3
        | 2 => 5
        | 4 => 10
        | _ => if signed then 19 else 20
      digits + (if signed then 2 else 1)
  | .fraction size => match size with
      | 4 => 16
      | 8 => 25
      | _ => 30

def controlNames : List String :=
  ["nul", "soh", "stx", "etx", "eot", "enq", "ack", "bel", "bs", "ht", "nl", "vt", "ff", "cr", "so",
    "si", "dle", "dc1", "dc2", "dc3", "dc4", "nak", "syn", "etb", "can", "em", "sub", "esc", "fs",
    "gs", "rs", "us", "sp"]

def padZeros (width : Nat) (digits : Octets) : Octets :=
  List.replicate (width - digits.length) '0' ++ digits

def fractionText (size n : Nat) : Octets :=
  let (w, exponentBits, digits) : Text.Fraction.Width × Nat × Nat := match size with
    | 4 => (Text.Fraction.single, 8, 6)
    | 8 => (Text.Fraction.double, 11, 15)
    | _ => (Text.Fraction.extended, 15, 18)
  let x := Text.Fraction.ofBits w exponentBits (size > 8) n
  let isSmall := match x with
    | .finite _ mantissa _ => mantissa < 2 ^ (w.digits - 1) && mantissa > 0
    | _ => false
  Text.Fraction.shortestText w x (if isSmall then 1 else digits) 22

def Form.text (f : Form) (bytes : List Nat) : Octets :=
  let n := bytes.foldr (fun x n => n * 256 + x) 0
  match f with
  | .name =>
      let n := n % 128
      if n = 127 then "del".toList
      else match controlNames[n]? with
        | some s => s.toList
        | none => [Char.ofNat n]
  | .char =>
      match n with
      | 0 => ['\\', '0']
      | 7 => ['\\', 'a']
      | 8 => ['\\', 'b']
      | 9 => ['\\', 't']
      | 10 => ['\\', 'n']
      | 11 => ['\\', 'v']
      | 12 => ['\\', 'f']
      | 13 => ['\\', 'r']
      | n => if 32 ≤ n ∧ n < 127 then [Char.ofNat n] else padZeros 3 (Nat.toDigits 8 n)
  | .number base signed size =>
      if signed && n ≥ 2 ^ (8 * size - 1) then '-' :: Nat.toDigits 10 (2 ^ (8 * size) - n)
      else if base = 10 then Nat.toDigits 10 n
      else padZeros (f.width - 1) (Nat.toDigits base n)
  | .fraction size => fractionText size n

/-- One of the forms in which each line is shown. -/
structure Layer where
  form : Form
  trailed : Bool
  deriving DecidableEq, Repr

def sizeOf (letters : List (Char × Nat)) (standard : Nat) (s : Octets) : Nat × Octets :=
  let digits := s.takeWhile Char.isDigit
  match readNat? digits, s with
  | some n, _ => (n, s.drop digits.length)
  | none, ch :: rest =>
      match letters.lookup ch with
      | some n => (n, rest)
      | none => (standard, s)
  | none, [] => (standard, s)

/-- Reads forms of dump: letters, perhaps with sizes, and a mark behind those that are trailed by
characters. -/
def layersOf (c : Context) (whole : Octets) (fuel : Nat) (s : Octets) :
    Except Octets (List Layer) := do
  match fuel, s with
  | 0, _ | _, [] => return []
  | fuel + 1, letter :: rest =>
      let (size, after) := if letter == 'a' || letter == 'c' then (1, rest)
        else if letter == 'f' then sizeOf [('F', 4), ('D', 8), ('L', 16)] 8 rest
        else sizeOf [('C', 1), ('S', 2), ('I', 4), ('L', 8)] 4 rest
      let form ← match letter with
        | 'a' => pure Form.name
        | 'c' => pure Form.char
        | 'x' => pure (.number 16 false size)
        | 'o' => pure (.number 8 false size)
        | 'u' => pure (.number 10 false size)
        | 'd' => pure (.number 10 true size)
        | 'f' => pure (.fraction size)
        | letter => throw ("invalid character ".toList ++ quoted c [letter] ++
            " in type string ".toList ++ quoted c whole)
      if !(if letter == 'f' then [4, 8, 16] else [1, 2, 4, 8]).contains size then
        throw ("invalid type string ".toList ++ quoted c whole ++
          ";\nthis system doesn't provide a ".toList ++ Octets.ofNat size ++
          (if letter == 'f' then "-byte floating point type" else "-byte integral type").toList)
      match after with
      | 'z' :: after => return ⟨form, true⟩ :: (← layersOf c whole fuel after)
      | after => return ⟨form, false⟩ :: (← layersOf c whole fuel after)

def offsetText (base : Octets) (n : Nat) : Octets :=
  match base with
  | ['n'] => []
  | ['x'] => padZeros 6 (Nat.toDigits 16 n)
  | ['d'] => padZeros 7 (Nat.toDigits 10 n)
  | _ => padZeros 7 (Nat.toDigits 8 n)

/-- One line of a dump in each of the forms; the columns of all forms stand below each other. -/
def dumpLine (layers : List Layer) (perLine : Nat) (base : Octets) (isBig : Bool) (offset : Nat)
    (bytes : List Nat) : Octets :=
  let forms := layers.map Layer.form
  let widest (size : Nat) : Nat :=
    (forms.map fun f => (f.width * size + f.size - 1) / f.size).foldl max 0
  let block := (forms.map Form.size).foldl Nat.lcm 1
  let total := widest block
  layers.zipIdx.flatMap fun (layer, n) =>
    let f := layer.form
    let label := if n = 0 then offsetText base offset else spaces (offsetText base offset).length
    let perBlock := block / f.size
    let pad := total - perBlock * f.width
    let widthAt (k : Nat) : Nat :=
      -- What is left over goes before the items, the later the more.
      let i := perBlock - k % perBlock
      f.width + (pad * i / perBlock - pad * (i - 1) / perBlock)
    let items := inPieces f.size bytes
    let ordered (item : List Nat) : List Nat :=
      if isBig then (item ++ List.replicate (f.size - item.length) 0).reverse else item
    let text := items.zipIdx.flatMap fun (item, k) => padLeft (widthAt k) (f.text (ordered item))
    let missing := ((List.range (perLine / f.size)).drop items.length).map widthAt
    let trailer : Octets :=
      if layer.trailed then
        spaces (missing.foldl (· + ·) 0) ++ "  >".toList ++
          (bytes.map fun b => if 32 ≤ b && b < 127 then Char.ofNat b else '.') ++ ['<']
      else []
    label ++ text ++ trailer ++ ['\n']

def dumpFrom (layers : List Layer) (perLine : Nat) (base : Octets) (all isBig : Bool)
    (fuel offset : Nat)
    (before : Option (List Nat)) (starred : Bool) (bytes : List Nat) : Octets :=
  match fuel, bytes with
  | 0, _ | _, [] => []
  | fuel + 1, bytes =>
      let now := bytes.take perLine
      let rest := bytes.drop perLine
      if !all && before = some now && now.length = perLine then
        (if starred then [] else ['*', '\n']) ++
          dumpFrom layers perLine base all isBig fuel (offset + now.length) before true rest
      else
        dumpLine layers perLine base isBig offset now ++
          dumpFrom layers perLine base all isBig fuel (offset + now.length) (some now) false rest

/-- The texts of at least some length that have a zero behind them, each with its offset.  The bytes
come with the offset of the first one.  Where no more bytes were to be read, the last text counts as
if its zero had been. -/
def stringLines (base : Octets) (least : Nat) (cut : Bool) (offset : Nat) (taken : Octets) :
    List Nat → Octets
  | [] => if cut && taken.length > least then line (offset - taken.length - 1) else []
  | b :: rest =>
      if 32 ≤ b && b < 127 then
        stringLines base least cut (offset + 1) (Char.ofNat b :: taken) rest
      else
        (if b = 0 && taken.length ≥ least then line (offset - taken.length) else []) ++
          stringLines base least cut (offset + 1) [] rest
where
  line (start : Nat) : Octets :=
    (match offsetText base start with
      | [] => []
      | address => address ++ [' ']) ++ taken.reverse ++ ['\n']

def od (c : Context) : Answer :=
  let long : List (String × Char × Arity) :=
    [("address-radix", 'A', .required), ("skip-bytes", 'j', .required),
      ("read-bytes", 'N', .required), ("format", 't', .required),
      ("output-duplicates", 'v', .flag), ("width", 'w', .optional), ("strings", 'S', .optional),
      ("endian", '\x03', .required), ("traditional", '\x04', .flag)]
  withOptions c "od" 1 "A:aBbcDdeFfHhIij:LlN:OoS:st:vw::Xx" long fun o =>
    let letters : List (Char × String) :=
      [('a', "a"), ('b', "o1"), ('B', "o2"), ('c', "c"), ('d', "u2"), ('i', "d4"), ('I', "d8"),
        ('l', "d8"), ('L', "d8"), ('o', "o2"), ('s', "d2"), ('x', "x2"), ('X', "x4"), ('h', "x2"),
        ('H', "x4"), ('D', "u4"), ('O', "o4"), ('e', "fD"), ('F', "fD"), ('f', "fF")]
    let formats := o.given.filterMap fun (letter, v) =>
      if letter == 't' then some v else (letters.lookup letter).map String.toList
    let formats := if formats.isEmpty then ["o2".toList] else formats
    let count (letter : Char) : Except Octets (Option Nat) :=
      match o.value? letter with
      | none => .ok none
      | some v =>
          match Excerpt.readCount? v with
          | some n => .ok (some n)
          | none => .error ("invalid -".toList ++ letter :: " argument ".toList ++ quoted c v)
    let plan : Except Octets (Octets × Option Nat × Option Nat × List Layer) := do
      let base := (o.value? 'A').getD ['o']
      if !([['o'], ['d'], ['x'], ['n']].contains base) then
        throw ("invalid output address radix ".toList ++ quoted c base ++
          "; it must be one character from [doxn]".toList)
      let skip? ← count 'j'
      let limit? ← count 'N'
      let layers ← formats.mapM fun f => layersOf c f (f.length + 1) f
      return (base, skip?, limit?, layers.flatten)
    match plan with
    | .error message => .failure c 1 ("od: ".toList ++ message)
    | .ok (base, skip?, limit?, layers) =>
      let unit := (layers.map fun l => l.form.size).foldl Nat.lcm 1
      let wanted := match o.value? 'w' with
        | some [] => 32
        | some v => (readNat? v).getD 16
        | none => 16
      let isFit := wanted > 0 && wanted % unit = 0
      let perLine := if isFit then wanted else if o.has 'w' then unit else max unit (16 / unit * unit)
      let warnings : List Print :=
        if isFit || !o.has 'w' then []
        else [.err ("od: warning: invalid width ".toList ++ Octets.ofNat wanted ++
          "; using ".toList ++ Octets.ofNat unit ++ " instead\n".toList)]
      withContents c o.operands fun contents =>
        let whole := contents.flatMap fun (_, content) => content.toOption.getD []
        let skipped := skip?.getD 0
        let rest := numbersOf (whole.drop skipped)
        let bytes := match limit? with
          | some n => rest.take n
          | none => rest
        let last := if o.has 'S' then [] else offsetText base (skipped + bytes.length)
        let least := match o.value? 'S' with
          | some [] | none => 3
          | some v => (Excerpt.readCount? v).getD 3
        let isBig := (o.value? '\x03').any fun v => v.head? == some 'b'
        let text := if o.has 'S' then stringLines base least limit?.isSome skipped [] bytes
          else dumpFrom layers perLine base (o.has 'v') isBig (bytes.length + 1) skipped none
            false bytes
        let errors := contents.filterMap fun (file, content) =>
          match content with
          | .ok _ => none
          | .error e => some (unreadable "od" file e)
        let text := if errors.length = contents.length then []
          else text ++ (if last.isEmpty then [] else last ++ ['\n'])
        if skipped > whole.length then
          .ends ⟨errors ++ [.err "od: cannot skip past end of combined input\n".toList], 1, c.tree⟩
        else .ends ⟨warnings ++ errors ++ [.out text], if errors.isEmpty then 0 else 1, c.tree⟩

end Dump

end Utility

end Conformance
