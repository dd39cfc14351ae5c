import Conformance.Computer.Utility.Blocks.Charset
import Conformance.Computer.Utility.Files

/-!
# Blocks

The program `dd`, which copies in blocks and may convert what it copies: letters, pairs of bytes,
lines to records of one size and back.
-/

namespace Conformance

namespace Utility

namespace Blocks

open Files

/-- A number with a unit behind it, or a product of such numbers.  Fuel bounds the factors. -/
def readSize? (fuel : Nat) (s : Octets) : Option Nat :=
  let digits := s.takeWhile Char.isDigit
  let behind := s.drop digits.length
  let unit := behind.takeWhile (· != 'x')
  let (unit, isBytes) := match unit.reverse with
    | ['B'] => ([], true)
    | 'B' :: rest => if rest = ['b'] || rest = ['c'] || rest = ['w'] then (rest.reverse, true)
        else (unit, false)
    | _ => (unit, false)
  let power (base : Nat) (letter : Char) : Option Nat :=
    (("KMGTPEZY".toList.zipIdx).find? fun (c, _) => c == letter.toUpper).map fun (_, n) =>
      base ^ (n + 1)
  let unit? : Option Nat := match unit with
    | [] | ['c'] => some 1
    | ['w'] => some 2
    | ['b'] => some 512
    | ['k'] | ['m'] | ['g'] | ['t'] => if unit = ['k'] then some 1024 else none
    | [c] => power 1024 c
    | [c, 'i', 'B'] => power 1024 c
    | [c, 'B'] => power 1000 c
    | _ => none
  match fuel, readNat? digits, unit? with
  | fuel + 1, some n, some scale =>
      match behind.drop (unit.length + (if isBytes then 1 else 0)) with
      | [] => some (n * scale)
      | 'x' :: rest => (readSize? fuel rest).map (n * scale * ·)
      | _ => none
  | _, _, _ => none

/-- How much is meant: so many blocks, or so many bytes. -/
structure Amount where
  count : Nat
  isBytes : Bool

def Amount.bytes (a : Amount) (block : Nat) : Nat := if a.isBytes then a.count else a.count * block

/-- What operands ask for. -/
structure Plan where
  input? : Option Octets := none
  output? : Option Octets := none
  both? : Option Nat := none
  inSize : Nat := 512
  outSize : Nat := 512
  record : Nat := 0
  count? : Option Amount := none
  skip : Amount := ⟨0, false⟩
  seek : Amount := ⟨0, false⟩
  conversions : List Octets := []
  inFlags : List Octets := []
  outFlags : List Octets := []
  status : Octets := []

namespace Plan

def converts (p : Plan) (word : String) : Bool := p.conversions.contains word.toList

def sizes (p : Plan) : Nat × Nat :=
  match p.both? with
  | some n => (n, n)
  | none => (p.inSize, p.outSize)

def conversionWords : List String :=
  ["ascii", "ebcdic", "ibm", "block", "unblock", "lcase", "ucase", "sparse", "swab", "noerror",
    "nocreat", "excl", "notrunc", "sync", "fdatasync", "fsync"]

def flagWords : List String :=
  ["append", "direct", "directory", "dsync", "noatime", "nocache", "noctty", "nofollow",
    "nonblock", "sync", "text", "binary", "fullblock", "count_bytes", "skip_bytes", "seek_bytes"]

def add (c : Context) (p : Plan) (operand : Octets) : Except Octets Plan := do
  let key := operand.takeWhile (· != '=')
  let value := operand.drop (key.length + 1)
  let unknown : Octets := "unrecognized operand ".toList ++ quotedName operand ++ tryHelp "dd"
  if !operand.contains '=' then throw unknown
  let words (known : List String) (kind : String) : Except Octets (List Octets) :=
    (splitAt ',' value).mapM fun word =>
      if known.any fun k => k.toList = word then .ok word
      else .error (("invalid " ++ kind ++ ": ").toList ++ quotedName word ++ tryHelp "dd")
  let number (least : Nat) : Except Octets Nat :=
    match readSize? (value.length + 1) value with
    | some n => if n < least then .error ("invalid number: ".toList ++ quoted c value) else .ok n
    | none => .error ("invalid number: ".toList ++ quoted c value)
  let amount : Except Octets Amount := do return ⟨← number 0, value.contains 'B'⟩
  match String.ofList key with
  | "if" => return { p with input? := some value }
  | "of" => return { p with output? := some value }
  | "conv" => return { p with conversions := p.conversions ++ (← words conversionWords "conversion") }
  | "iflag" => return { p with inFlags := p.inFlags ++ (← words flagWords "input flag") }
  | "oflag" => return { p with outFlags := p.outFlags ++ (← words flagWords "output flag") }
  | "status" =>
      let known := ["none", "noxfer", "progress"]
      if known.any fun k => k.toList = value then return { p with status := value }
      throw ("invalid status level: ".toList ++ quotedName value ++ tryHelp "dd")
  | "bs" => return { p with both? := some (← number 1) }
  | "ibs" => return { p with inSize := ← number 1 }
  | "obs" => return { p with outSize := ← number 1 }
  | "cbs" => return { p with record := ← number 1 }
  | "count" => return { p with count? := some (← amount) }
  | "skip" | "iseek" => return { p with skip := ← amount }
  | "seek" | "oseek" => return { p with seek := ← amount }
  | _ => throw unknown

def checked (p : Plan) : Except Octets Plan := do
  let several (words : List String) : Bool := ((words.filter p.converts).drop 1).isEmpty == false
  if several ["ascii", "ebcdic", "ibm"] then
    throw "cannot combine any two of \x7bascii,ebcdic,ibm\x7d".toList
  if several ["block", "unblock"] then throw "cannot combine block and unblock".toList
  if several ["lcase", "ucase"] then throw "cannot combine lcase and ucase".toList
  if several ["excl", "nocreat"] then throw "cannot combine excl and nocreat".toList
  let inBytes (flags : List Octets) (flag : String) (a : Amount) : Amount :=
    { a with isBytes := a.isBytes || flags.contains flag.toList }
  return { p with
    count? := p.count?.map (inBytes p.inFlags "count_bytes")
    skip := inBytes p.inFlags "skip_bytes" p.skip
    seek := inBytes p.outFlags "seek_bytes" p.seek }

def ofOperands (c : Context) (operands : List Octets) : Except Octets Plan := do
  (← operands.foldlM (add c) {}).checked

/-! ## Conversions -/

/-- What stands for blanks and line ends once bytes have been translated. -/
def marks (p : Plan) : Char × Char :=
  if p.converts "ebcdic" then (ebcdicTable.getD 32 ' ', ebcdicTable.getD 10 '\n')
  else if p.converts "ibm" then (ibmTable.getD 32 ' ', ibmTable.getD 10 '\n')
  else (' ', '\n')

def recordWay (p : Plan) : Option Bool :=
  if p.record = 0 then none
  else if p.converts "block" || p.converts "ebcdic" || p.converts "ibm" then some true
  else if p.converts "unblock" || p.converts "ascii" then some false
  else none

def translate (p : Plan) (s : Octets) : Octets :=
  let s := if p.converts "ascii" then translated asciiTable s else s
  let s := if p.converts "ucase" then s.map Char.toUpper
    else if p.converts "lcase" then s.map Char.toLower else s
  if p.converts "ebcdic" then translated ebcdicTable s
  else if p.converts "ibm" then translated ibmTable s else s

def swapped : Octets → Octets
  | a :: b :: rest => b :: a :: swapped rest
  | s => s

/-- Lines as records of one size, filled up with blanks or cut. -/
def blocked (record : Nat) (blank lineEnd : Char) (s : Octets) : Octets :=
  (Excerpt.linesOf lineEnd s).flatMap fun line =>
    line.take record ++ List.replicate (record - line.length) blank

/-- Records as lines, without the blanks at their ends.  Fuel bounds their number. -/
def unblocked (record : Nat) (blank lineEnd : Char) (fuel : Nat) (s : Octets) : Octets :=
  match fuel, s with
  | 0, _ | _, [] => []
  | fuel + 1, s =>
      ((s.take record).reverse.dropWhile (· == blank)).reverse ++
        lineEnd :: unblocked record blank lineEnd fuel (s.drop record)

def converted (p : Plan) (s : Octets) : Octets :=
  let size := p.sizes.1
  let missing := (size - s.length % size) % size
  let s := if p.converts "sync" then
      s ++ List.replicate missing (if p.recordWay.isSome then ' ' else '\x00')
    else s
  let s := p.translate s
  let s := if p.converts "swab" then swapped s else s
  let (blank, lineEnd) := p.marks
  match p.recordWay with
  | some true => blocked p.record blank lineEnd s
  | some false => unblocked p.record blank lineEnd (s.length + 1) s
  | none => s

end Plan

/-! ## The program -/

def contentFor (c : Context) (p : Plan) : Except Answer Octets :=
  let needed? := p.count?.map fun n => n.bytes p.sizes.1 + p.skip.bytes p.sizes.1
  match p.input? with
  | none =>
      if c.inputFailure.isSome then
        .error (.failure c 1 ("dd: error reading 'standard input': ".toList ++
          errorText (c.inputFailure.getD (.os .isDirectory))))
      else if c.inputEnded || needed?.any (· ≤ c.input.length) then .ok c.input else .error .more
  | some file =>
      match need? c [file] with
      | some answer => .error answer
      | none =>
          if isZeros c file then .ok (List.replicate (needed?.getD 0) '\x00')
          else match contentOf c file with
            | .ok s => .ok s
            | .error e =>
                .error (.failure c 1 ((if e = .os .isDirectory then "dd: error reading "
                  else "dd: failed to open ").toList ++ quotedName file ++ ": ".toList ++
                  errorText e))

/-- The lines about how much was read and written. -/
def summary (p : Plan) (taken written : Nat) : List Print :=
  let (inSize, outSize) := p.sizes
  let direct := p.both?.isSome && !(p.conversions.any fun w =>
    ["ascii", "ebcdic", "ibm", "block", "unblock", "lcase", "ucase", "swab"].any fun k =>
      k.toList = w)
  let records (n size : Nat) (what : String) : Octets :=
    Octets.ofNat (n / size) ++ '+' :: Octets.ofNat (if n % size = 0 then 0 else 1) ++ what.toList
  if p.status = "none".toList then []
  else
    let bytes : Octets := if p.status = "noxfer".toList then []
      else Octets.ofNat written ++ (if written = 1 then " byte" else " bytes").toList ++
        (if written ≥ 1000 then
          " (".toList ++ Octets.ofNat (written / 1000) ++ " kB)".toList else []) ++
        " copied, 0.0001 s, 1.0 MB/s\n".toList
    [.err (records taken inSize " records in\n" ++
      records written (if direct then inSize else outSize) " records out\n" ++ bytes)]

def writeTo (c : Context) (p : Plan) (file data : Octets) (closing : List Print) : Answer :=
  let fail (e : IoError) : Answer :=
    .failure c 1 ("dd: failed to open ".toList ++ quotedName file ++ ": ".toList ++ errorText e)
  let seek := p.seek.bytes p.sizes.2
  let old : Octets := match c.workingTree.read c.directory (pathOf file) with
    | .ok b => Octets.ofBytes b
    | .error _ => []
  let isThere := c.tree.isPresent c.directory (pathOf file)
  let keeps := p.converts "notrunc"
  let appends := p.outFlags.contains "append".toList
  let content := if appends then (if keeps || seek > 0 then old.take (max seek old.length) else []) ++ data
    else
      (old ++ List.replicate (seek - old.length) '\x00').take seek ++ data ++
        (if keeps then old.drop (seek + data.length) else [])
  if p.converts "excl" && isThere then fail (.os .fileExists)
  else if p.converts "nocreat" && !isThere then fail (.os .noEntry)
  else match writeFile c c.workingTree file false content with
    | .ok (tree, prints) => .ends ⟨prints ++ closing, 0, tree⟩
    | .error (.os ⟨28⟩) =>
        .failure c 1 ("dd: error writing ".toList ++ quotedName file ++
          ": No space left on device".toList)
    | .error e => fail e

def dd (c : Context) : Answer :=
  let asksOnly := match c.args with
    | [a] => a = "--version".toList || a = "--help".toList
    | _ => false
  if asksOnly then withOptions c "dd" 1 "" [] fun _ => .status c 0
  else match Plan.ofOperands c (c.args.filter (· != "--".toList)) with
  | .error message => .failure c 1 ("dd: ".toList ++ message)
  | .ok p =>
    match contentFor c p with
    | .error answer => answer
    | .ok content =>
      let (inSize, outSize) := p.sizes
      let skip := p.skip.bytes inSize
      let rest := content.drop skip
      let taken := match p.count? with
        | some n => rest.take (n.bytes inSize)
        | none => rest
      let data := p.converted taken
      let closing := summary p taken.length data.length
      match p.output? with
      | some file => writeTo c p file data closing
      | none =>
          let seek := p.seek.bytes outSize
          let place? := (c.descriptors.lookup 1).bind id
          if seek > 0 && place?.isNone then
            .failure c 1 "dd: 'standard output': cannot seek: Illegal seek".toList
          else
            let gap := if (place?.bind c.tree.find).any (fun e => match e with
                | .file (.bytes _) => true
                | _ => false) then List.replicate seek '\x00' else []
            let beyond : List Print := match p.input? with
              | some file =>
                  if skip > content.length then
                    [.err ("dd: ".toList ++ quotedName file ++
                      ": cannot skip to specified offset\n".toList)]
                  else []
              | none => []
            .ends ⟨beyond ++ .out (gap ++ data) :: closing, 0, c.tree⟩

end Blocks

end Utility

end Conformance
