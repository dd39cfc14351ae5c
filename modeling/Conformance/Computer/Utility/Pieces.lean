import Conformance.Computer.Text.Regex
import Conformance.Computer.Utility.Excerpt
import Conformance.Computer.Utility.Format

/-!
# Pieces

The programs `split` and `csplit`, which put the parts of a file into files of their own.
-/

namespace Conformance

namespace Utility

namespace Pieces

open Excerpt

/-! ## Names of pieces -/

def digitOf (alphabet : List Char) (k : Nat) : Char := alphabet.getD k 'z'

/-- A number written with the characters of an alphabet, in so many places. -/
def spelled (alphabet : List Char) (places n : Nat) : Octets :=
  let base := alphabet.length
  (List.range places).map fun k => digitOf alphabet (n / base ^ (places - 1 - k) % base)

/-- The ending of the name of a piece where the endings grow longer when they run out: those that
begin with the last character of the alphabet are longer ones. -/
def growing (alphabet : List Char) (fuel places lead n : Nat) : Octets :=
  let base := alphabet.length
  let room := (base - 1) * base ^ (places - 1)
  match fuel with
  | 0 => spelled alphabet places n
  | fuel + 1 =>
      if n < room then
        List.replicate lead (digitOf alphabet (base - 1)) ++ spelled alphabet places n
      else growing alphabet fuel (places + 1) (lead + 1) (n - room)

structure Endings where
  alphabet : List Char
  places : Nat
  grows : Bool
  first : Nat
  extra : Octets

def Endings.get? (e : Endings) (n : Nat) : Option Octets :=
  if e.grows then some (growing e.alphabet 8 e.places 0 n ++ e.extra)
  else if n + e.first ≥ e.alphabet.length ^ e.places then none
  else some (spelled e.alphabet e.places (n + e.first) ++ e.extra)

/-! ## Cutting -/

/-- Cuts a text into pieces of at most a number of lines. -/
def byLine (ending : Char) (lines : Nat) (fuel : Nat) (s : Octets) : List Octets :=
  match fuel, s with
  | 0, _ | _, [] => []
  | fuel + 1, s =>
      let piece := firstLines ending lines s
      piece :: byLine ending lines fuel (s.drop piece.length)

def bySize (size : Nat) (fuel : Nat) (s : Octets) : List Octets :=
  match fuel, s with
  | 0, _ | _, [] => []
  | fuel + 1, s => s.take size :: bySize size fuel (s.drop size)

def wholeLines (ending : Char) (s : Octets) : List Octets := byLine ending 1 (s.length + 1) s

def fillLines (size : Nat) (fuel : Nat) (current : Octets) (lines : List Octets) : List Octets :=
  match fuel, lines with
  | 0, _ | _, [] => if current.isEmpty then [] else [current]
  | fuel + 1, line :: rest =>
      if current.length + line.length ≤ size then
        fillLines size fuel (current ++ line) rest
      else if !current.isEmpty then current :: fillLines size fuel [] (line :: rest)
      else line.take size :: fillLines size fuel [] (line.drop size :: rest)

/-- Where the parts end if a size is cut into a number of parts; the first ones take what is over. -/
def bounds (size count : Nat) : List Nat :=
  (List.range count).map fun k => (k + 1) * (size / count) + min (k + 1) (size % count)

def evenly (count : Nat) (s : Octets) : List Octets :=
  let ends := bounds s.length count
  (ends.zip (0 :: ends)).map fun (last, first) => (s.take last).drop first

/-- Parts of about one size that end where lines do. -/
def evenlyByLine (ending : Char) (count : Nat) (s : Octets) : List Octets :=
  ((bounds s.length count).foldl (fun ((parts, pos) : List Octets × Nat) last =>
    if last ≤ pos then ([] :: parts, pos)
    else
      let rest := s.drop pos
      let skipped := last - 1 - pos
      let line := (rest.drop skipped).takeWhile (· != ending)
      let piece := rest.take (skipped + line.length + 1)
      (piece :: parts, pos + piece.length)) ([], 0)).1.reverse

def inTurn (ending : Char) (count : Nat) (s : Octets) : List Octets :=
  let lines := (wholeLines ending s).zipIdx
  (List.range count).map fun k =>
    (lines.filter fun (_, n) => n % count = k).flatMap Prod.fst

inductive Cut where
  | lines (n : Nat)
  | bytes (n : Nat)
  | filled (n : Nat)
  | parts (kind : Char) (only : Option Nat) (count : Nat)

def Cut.apply (k : Cut) (ending : Char) (s : Octets) : List Octets :=
  match k with
  | .lines n => byLine ending n (s.length + 1) s
  | .bytes n => bySize n (s.length + 1) s
  | .filled n => fillLines n (3 * s.length + 3) [] (wholeLines ending s)
  | .parts 'l' _ count => evenlyByLine ending count s
  | .parts 'r' _ count => inTurn ending count s
  | .parts _ _ count => evenly count s

def readParts? (s : Octets) : Option Cut :=
  let (kind, rest) := match s with
    | 'l' :: '/' :: rest => ('l', rest)
    | 'r' :: '/' :: rest => ('r', rest)
    | rest => ('b', rest)
  match splitAt '/' rest with
  | [n] => (readCount? n).bind fun n => if n = 0 then none else some (.parts kind none n)
  | [k, n] =>
      match readCount? k, readCount? n with
      | some k, some n => if 1 ≤ k ∧ k ≤ n then some (.parts kind (some k) n) else none
      | _, _ => none
  | _ => none

/-! ## The program `split` -/

def splitOptions : List (String × Char × Arity) :=
  [("lines", 'l', .required), ("bytes", 'b', .required), ("line-bytes", 'C', .required),
    ("suffix-length", 'a', .required), ("numeric-suffixes", '\x05', .optional),
    ("hex-suffixes", '\x06', .optional), ("additional-suffix", '\x03', .required),
    ("number", 'n', .required), ("elide-empty-files", 'e', .flag), ("verbose", '\x04', .flag),
    ("separator", 't', .required), ("unbuffered", 'u', .flag), ("filter", '\x07', .required)]

def cutOf (c : Context) (o : Options) : Except Octets Cut := do
  let number (what : String) (v : Octets) : Except Octets Nat :=
    match readCount? v with
    | some 0 | none =>
        .error (("split: invalid number of " ++ what ++ ": ").toList ++ quoted c v)
    | some n => .ok n
  match o.given.filter fun g => "lbCn".toList.contains g.1 with
  | [] => return .lines 1000
  | [('l', v)] => return .lines (← number "lines" v)
  | [('b', v)] => return .bytes (← number "bytes" v)
  | [('C', v)] => return .filled (← number "bytes" v)
  | [(_, v)] =>
      match readParts? v with
      | some cut => return cut
      | none =>
          throw ("split: invalid number of chunks: ".toList ++
            quoted c ((splitAt '/' v).getLastD v))
  | _ => throw ("split: cannot split in more than one way".toList ++ tryHelp "split")

def endingsOf (c : Context) (o : Options) (cut : Cut) : Except Octets Endings := do
  let (alphabet, start) : String × Octets := match o.lastOf "dx\x05\x06" with
    | some '\x05' => ("0123456789", (o.value? '\x05').getD [])
    | some '\x06' => ("0123456789abcdef", (o.value? '\x06').getD [])
    | some 'x' => ("0123456789abcdef", [])
    | some _ => ("0123456789", [])
    | none => ("abcdefghijklmnopqrstuvwxyz", [])
  let extra := (o.value? '\x03').getD []
  if extra.contains '/' then
    throw ("split: invalid suffix ".toList ++ quoted c extra ++
      ", contains directory separator".toList ++ tryHelp "split")
  let given? ← match o.value? 'a' with
    | none => pure none
    | some v => match readNat? v with
        | some 0 => pure none
        | some n => pure (some n)
        | none => throw ("split: invalid suffix length: ".toList ++ quoted c v)
  let base := alphabet.length
  let needed (n : Nat) : Nat :=
    ((List.range 64).find? fun k => base ^ k ≥ n).getD 2
  match given?, cut with
  | some n, .parts _ _ count =>
      if n < needed count then
        throw ("split: the suffix length needs to be at least ".toList ++
          Octets.ofNat (needed count))
      else return ⟨alphabet.toList, n, false, (readNat? start).getD 0, extra⟩
  | some n, _ => return ⟨alphabet.toList, n, false, (readNat? start).getD 0, extra⟩
  | none, .parts _ _ count =>
      return ⟨alphabet.toList, max 2 (needed count), false, (readNat? start).getD 0, extra⟩
  | none, _ =>
      return ⟨alphabet.toList, 2, start.isEmpty, (readNat? start).getD 0, extra⟩

/-- The pieces that get files, with the ends of their names; the last one is without a name if the
names run out. -/
def named (e : Endings) (stem : Octets) (pieces : List Octets) : List (Option Octets × Octets) :=
  pieces.zipIdx.map fun (piece, n) => ((e.get? n).map (stem ++ ·), piece)

def writePieces (c : Context) (verbose : Bool) (pieces : List (Option Octets × Octets)) : Answer :=
  let rec go (t : FileTree) (prints : List Print) : List (Option Octets × Octets) → Answer
    | [] => .ends ⟨prints.reverse, 0, t⟩
    | (none, _) :: _ =>
        .ends ⟨(.err "split: output file suffixes exhausted\n".toList :: prints).reverse, 1, t⟩
    | (some name, piece) :: rest =>
        let prints := if verbose then
            .out ("creating file ".toList ++ quotedName name ++ ['\n']) :: prints
          else prints
        match writeFile c t name false piece with
        | .ok (t, more) => go t (more.reverse ++ prints) rest
        | .error e =>
            .ends ⟨(.err ("split: ".toList ++ name ++ ": ".toList ++ errorText e ++ ['\n']) ::
              prints).reverse, 1, t⟩
  go c.workingTree [] pieces

/-- Hands each piece to a command that finds its name in the environment. -/
def filterPieces (c : Context) (command : Octets) (pieces : List (Option Octets × Octets)) :
    Answer :=
  let failed? := (c.ran.zip pieces).find? fun (r, _) => r.status != .code 0
  match failed?, (pieces.drop c.ran.length).head? with
  | some (r, (name, _)), _ =>
      .failure c 1 ("split: with FILE=".toList ++ name.getD [] ++ ", exit ".toList ++
        Octets.ofNat r.status.toNat ++ " from command: ".toList ++ command)
  | none, some (name, piece) =>
      let environment := (c.environment.filter fun e => e.1 != "FILE".toList) ++
        [("FILE".toList, name.getD [])]
      .calls [] c.tree
        { args := ["sh".toList, "-c".toList, command], environment, input := some piece,
          captures := false }
  | none, none => .status c 0

def split (c : Context) : Answer :=
  -- A count behind a dash is one of lines.
  let args := c.args.flatMap fun a =>
    match a with
    | '-' :: d :: digits =>
        if (d :: digits).all Char.isDigit then ["-l".toList, d :: digits] else [a]
    | a => [a]
  withOptions { c with args } "split" 1 "a:b:C:del:n:t:ux" splitOptions fun o =>
    match cutOf c o with
    | .error message => .failure c 1 message
    | .ok cut =>
      match endingsOf c o cut with
      | .error message => .failure c 1 message
      | .ok e =>
        match o.operands with
        | _ :: _ :: extra :: _ => extraOperand c "split" extra
        | operands =>
          let file := operands.headD ['-']
          let stem := (operands[1]?).getD ['x']
          match need? c [file] with
          | some answer => answer
          | none =>
            match contentOf c file with
            | .error e =>
                if e = .os .isDirectory then
                  .failure c 1 ("split: ".toList ++ file ++ ": Is a directory".toList)
                else .failure c 1 ("split: cannot open ".toList ++ quotedName file ++
                  " for reading: ".toList ++ errorText e)
            | .ok s =>
                let mark : Char := match o.value? 't' with
                  | some ['\\', '0'] => '\x00'
                  | some (d :: _) => d
                  | _ => '\n'
                let pieces := cut.apply mark s
                match cut with
                | .parts _ (some k) _ => .ok c (pieces.getD (k - 1) [])
                | _ =>
                    let pieces := if o.has 'e' then pieces.filter (!·.isEmpty) else pieces
                    match o.value? '\x07' with
                    | some command => filterPieces c command (named e stem pieces)
                    | none => writePieces c (o.has '\x04') (named e stem pieces)

/-! ## The program `csplit` -/

/-- Where a piece ends: in front of a line by its number, or of one that matches. -/
inductive Limit where
  | line (n : Nat)
  | matching (skips : Bool) (r : Regex) (offset : Int)

/-- A limit with what it is called and how often it is used; `none` for as long as it goes. -/
structure Mark where
  limit : Limit
  text : Octets
  times : Option Nat

def readOffset? (s : Octets) : Option Int := if s.isEmpty then some 0 else readInt? s

def upTo (mark : Char) (fuel : Nat) : Octets → Option (Octets × Octets)
  | [] => none
  | c :: rest =>
      match fuel with
      | 0 => none
      | fuel + 1 =>
          if c == mark then some ([], rest)
          else if c == '\\' then
            match rest with
            | d :: rest => (upTo mark fuel rest).map fun (s, rest) => (c :: d :: s, rest)
            | [] => none
          else (upTo mark fuel rest).map fun (s, rest) => (c :: s, rest)

def readMarks (c : Context) (fuel : Nat) (args : List Octets) : Except Octets (List Mark) := do
  match fuel, args with
  | 0, _ | _, [] => return []
  | fuel + 1, a :: rest =>
      let limit ← match a with
        | d :: s =>
            if d == '/' || d == '%' then
              match upTo d (s.length + 1) s with
              | none => throw (a ++ ": closing delimiter ".toList ++ quoted c [d] ++
                  " missing".toList)
              | some (pattern, offset) =>
                  match Regex.parse .basic pattern, readOffset? offset with
                  | some r, some n => pure (Limit.matching (d == '%') r n)
                  | none, _ => throw (a ++ ": invalid regular expression: ".toList ++
                      (Regex.complaint .basic pattern).toList)
                  | _, none => throw (a ++ ": integer expected after delimiter".toList)
            else match readNat? a with
              | some 0 => throw (a ++ ": line number must be greater than zero".toList)
              | some n => pure (Limit.line n)
              | none => throw (quoted c a ++ ": invalid pattern".toList)
        | [] => throw (quoted c a ++ ": invalid pattern".toList)
      match rest with
      | ('{' :: count) :: others =>
          if count.getLast? != some '}' then
            throw ("\x7b".toList ++ count ++ ": \x7b\x7d is required in repeat count".toList)
          else if count = "*\x7d".toList then
            return ⟨limit, a, none⟩ :: (← readMarks c fuel others)
          else match readNat? count.dropLast with
            | some n => return ⟨limit, a, some (n + 1)⟩ :: (← readMarks c fuel others)
            | none => throw (quoted c ('\x7b' :: count) ++
                ": integer required between \x7b and \x7d".toList)
      | rest => return ⟨limit, a, some 1⟩ :: (← readMarks c fuel rest)

structure Course where
  lines : List Octets
  first : Nat
  current : Nat
  pieces : List Octets

namespace Course

/-- Puts the lines in front of one into a piece, or throws them away. -/
def cutAt (s : Course) (line : Nat) (skips : Bool) : Course :=
  let taken := s.lines.take (line - s.first)
  { s with
    lines := s.lines.drop (line - s.first)
    first := line
    pieces := if skips then s.pieces else taken.flatten :: s.pieces }

def rest (s : Course) : Course :=
  { s with pieces := s.lines.flatten :: s.pieces, lines := [], first := s.first + s.lines.length }

def behind (s : Course) : Nat := s.first + s.lines.length

def findLine (s : Course) (r : Regex) (start : Nat) : Option Nat :=
  ((s.lines.zipIdx.drop (start - s.first)).find? fun (line, _) =>
    (Regex.find? ⟨(Octets.chomp line).toArray, .standard⟩ r 0).isSome).map fun (_, n) => n + s.first

/-- Uses a limit once.  Fails with a message and what has been cut then. -/
def use (s : Course) (c : Context) (m : Mark) (turn : Nat) : Except (Octets × Course) Course :=
  let on : Octets := if turn = 0 then [] else " on repetition ".toList ++ Octets.ofNat turn
  let range : Octets := quoted c m.text ++ ": line number out of range".toList ++ on
  match m.limit with
  | .line n =>
      let line := n * (turn + 1)
      if line ≥ s.behind then .error (range, s.rest)
      else .ok { s.cutAt line false with current := line }
  | .matching skips r offset =>
      match s.findLine r (max s.first (s.current + 1)) with
      | none =>
          .error (quoted c m.text ++ ": match not found".toList ++ on,
            if skips then s else s.rest)
      | some n =>
          let place : Int := n + offset
          if place < s.first || place > s.behind then .error (range, s.rest)
          else
            let s := s.cutAt place.toNat skips
            .ok { s with current := if offset > 0 then place.toNat else n }

def useMany (s : Course) (c : Context) (m : Mark) (fuel turn : Nat) :
    Except (Octets × Course) (Course × Bool) :=
  match fuel with
  | 0 => .ok (s, false)
  | fuel + 1 =>
      if m.times = some turn then .ok (s, false)
      else match s.use c m turn, m.times with
        | .ok s, _ => s.useMany c m fuel (turn + 1)
        | .error (_, s), none => .ok (s, true)
        | .error e, some _ => .error e

def useAll (s : Course) (c : Context) : List Mark → Except (Octets × Course) Course
  | [] => .ok s.rest
  | m :: rest => do
      let (s, isDone) ← s.useMany c m (s.lines.length + m.times.getD 0 + 2) 0
      if isDone then return s else s.useAll c rest

end Course

def csplit (c : Context) : Answer :=
  let long : List (String × Char × Arity) :=
    [("suffix-format", 'b', .required), ("prefix", 'f', .required), ("keep-files", 'k', .flag),
      ("digits", 'n', .required), ("quiet", 's', .flag), ("silent", 's', .flag),
      ("elide-empty-files", 'z', .flag), ("suppress-matched", '\x03', .flag)]
  withOptions c "csplit" 1 "b:f:kn:qsz" long fun o =>
    match o.operands with
    | [] => missingOperand c "csplit"
    | [file] => .failure c 1 ("csplit: missing operand after ".toList ++ quoted c file ++
        tryHelp "csplit")
    | file :: patterns =>
      match readMarks c (patterns.length + 1) patterns with
      | .error message => .failure c 1 ("csplit: ".toList ++ message)
      | .ok marks =>
        match need? c [file] with
        | some answer => answer
        | none =>
          match contentOf c file with
          | .error e => .failure c 1 ("csplit: cannot open ".toList ++ quotedName file ++
              " for reading: ".toList ++ errorText e)
          | .ok s =>
            let start : Course := ⟨wholeLines '\n' s, 1, 0, []⟩
            let (course, complaint) := match start.useAll c marks with
              | .ok course => (course, none)
              | .error (message, course) => (course, some message)
            let digits := ((o.value? 'n').bind readNat?).getD 2
            let stem := (o.value? 'f').getD ['x', 'x']
            let nameOf (n : Nat) : Octets :=
              match o.value? 'b' with
              | some format =>
                  let m : Format.Manner := ⟨.program, c.isWide, quoted c, 0⟩
                  stem ++ Format.printedText (Format.printf m [format, Octets.ofNat n]).1
              | none =>
                  let text := Octets.ofNat n
                  stem ++ List.replicate (digits - text.length) '0' ++ text
            let pieces := course.pieces.reverse.filter fun p => !(o.has 'z' && p.isEmpty)
            let sizes : List Print := if o.hasAny "sq" then []
              else pieces.map fun p => .out (Octets.ofNat p.length ++ ['\n'])
            let write : Except IoError FileTree := pieces.zipIdx.foldlM (fun t (p, n) => do
              return (← writeFile c t (nameOf n) false p).1) c.workingTree
            match complaint, write with
            | none, .ok t => .ends ⟨sizes, 0, t⟩
            | some message, .ok t =>
                -- The last piece is closed only after the complaint.
                .ends ⟨sizes.dropLast ++ .err ("csplit: ".toList ++ message ++ ['\n']) ::
                    sizes.getLast?.toList, 1,
                  if o.has 'k' then t else c.tree⟩
            | _, .error e => .failure c 1 ("csplit: ".toList ++ nameOf 0 ++ ": ".toList ++ errorText e)

end Pieces

end Utility

end Conformance
