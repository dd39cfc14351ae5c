import Conformance.Computer.Text.Regex
import Conformance.Computer.Utility.Excerpt

/-!
# Characters and lines in other forms

The programs `tr`, `rev` and `tac`.
-/

namespace Conformance

namespace Utility

namespace Translate

/-! ## Sets of characters -/

/-- A part of a set of characters. -/
inductive Part where
  | single (c : Char)
  | span (low high : Char)
  | named (name : Octets)
  /-- A character many times; without a number as often as is needed. -/
  | many (c : Char) (times : Option Nat)
  deriving DecidableEq, Repr

def simpleEscape (c : Char) : Char :=
  match c with
  | 'n' => '\n'
  | 't' => '\t'
  | 'r' => '\r'
  | 'a' => '\x07'
  | 'b' => '\x08'
  | 'f' => '\x0c'
  | 'v' => '\x0b'
  | c => c

def isOctal (c : Char) : Bool := '0' ≤ c && c ≤ '7'

def octalValue (digits : Octets) : Nat :=
  digits.foldl (fun n d => 8 * n + (d.toNat - '0'.toNat)) 0

/-- The characters of a set with the fact that a backslash stood before each. -/
def unescaped (fuel : Nat) (s : Octets) : List (Char × Bool) :=
  match fuel, s with
  | 0, _ | _, [] => []
  | fuel + 1, '\\' :: rest =>
      match rest with
      | [] => [('\\', false)]
      | d :: after =>
          if isOctal d then
            let three := (rest.take 3).takeWhile isOctal
            -- Three digits that are too much for a byte count as two.
            let digits := if octalValue three > 255 then three.take 2 else three
            (Char.ofNat (octalValue digits), true) :: unescaped fuel (rest.drop digits.length)
          else (simpleEscape d, true) :: unescaped fuel after
  | fuel + 1, c :: rest => (c, false) :: unescaped fuel rest

def upToMark (mark : Char) : List (Char × Bool) → Option (List Char × List (Char × Bool))
  | (c, false) :: (']', false) :: rest =>
      if c == mark then some ([], rest)
      else (upToMark mark ((']', false) :: rest)).map fun (s, rest) => (c :: s, rest)
  | (c, _) :: rest => (upToMark mark rest).map fun (s, rest) => (c :: s, rest)
  | [] => none

/-- Reads a set; the message says what is wrong with it. -/
def partsOf (fuel : Nat) (s : List (Char × Bool)) : Except Octets (List Part) := do
  match fuel, s with
  | 0, _ | _, [] => return []
  | fuel + 1, s =>
    let plain : Except Octets (List Part) := do
      match s with
      | (low, _) :: ('-', false) :: (high, _) :: rest =>
          if high < low then
            throw ("range-endpoints of '".toList ++ [low, '-', high] ++
              "' are in reverse collating sequence order".toList)
          return .span low high :: (← partsOf fuel rest)
      | (c, _) :: rest => return .single c :: (← partsOf fuel rest)
      | [] => return []
    match s with
    | ('[', false) :: (':', false) :: rest =>
        match upToMark ':' rest with
        | some (name, after) =>
            if Regex.classNames.any (fun n => n.toList = name) then
              return .named name :: (← partsOf fuel after)
            else throw ("invalid character class ".toList ++ Octets.ofString "‘" ++ name ++
              Octets.ofString "’")
        | none => plain
    | ('[', false) :: ('=', false) :: rest =>
        match upToMark '=' rest with
        | some ([c], after) => return .single c :: (← partsOf fuel after)
        | some (s, _) =>
            throw (s ++ ": equivalence class operand must be a single character".toList)
        | none => plain
    | ('[', false) :: (c, _) :: ('*', false) :: rest =>
        let digits := (rest.takeWhile fun (d, _) => d.isDigit).map Prod.fst
        match rest.drop digits.length with
        | (']', false) :: after =>
            let value := if digits.head? == some '0' then octalValue digits
              else (readNat? digits).getD 0
            return .many c (if value = 0 then none else some value) :: (← partsOf fuel after)
        | _ => plain
    | _ => plain

def readSet (s : Octets) : Except Octets (List Part) :=
  partsOf (s.length + 1) (unescaped (s.length + 1) s)

def allBytes : List Char := (List.range 256).map Char.ofNat

def Part.expand (filling : Nat) : Part → List Char
  | .single c => [c]
  | .span low high =>
      (List.range (high.toNat + 1 - low.toNat)).map fun n => Char.ofNat (low.toNat + n)
  | .named name => allBytes.filter (CharRange.inClass name)
  | .many c times => List.replicate (times.getD filling) c

/-- The characters of a set, with as many in the place of an open repetition as make up a size. -/
def expand (size : Nat) (parts : List Part) : List Char :=
  let fixed := (parts.flatMap (Part.expand 0)).length
  parts.flatMap (Part.expand (size - fixed))

def Part.isCase : Part → Bool
  | .named name => name = "upper".toList || name = "lower".toList
  | _ => false

def Part.isNamed : Part → Bool
  | .named _ => true
  | _ => false

/-- The places where parts begin that pass a test. -/
def offsets (size : Nat) (p : Part → Bool) (parts : List Part) : List Nat :=
  let fixed := (parts.flatMap (Part.expand 0)).length
  (parts.foldl (fun ((found, n) : List Nat × Nat) part =>
    (if p part then n :: found else found, n + (part.expand (size - fixed)).length)) ([], 0)).1

def squeeze (p : Char → Bool) (s : Octets) : Octets :=
  (s.foldl (fun (out : Octets) c =>
    if p c && out.head? == some c then out else c :: out) []).reverse

/-- What the second set makes of the characters of the first one. -/
def tableOf (source target : List Char) : Array Char :=
  ((source.zipIdx).foldl (fun (table : Array Char) (c, n) =>
    match (target[n]?).orElse fun _ => target.getLast? with
    | some d => table.setIfInBounds c.toNat d
    | none => table) allBytes.toArray)

def translated (table : Array Char) (c : Char) : Char := (table[c.toNat]?).getD c

def pairComplaint? (complement truncates : Bool) (a b : List Part) : Option String :=
  let size := (expand 0 a).length
  if b.any fun part => part.isNamed && !part.isCase then
    some ("when translating, the only character classes that may appear in\n" ++
      "string2 are 'upper' and 'lower'")
  else if (b.filter fun part => match part with
      | .many _ none => true
      | _ => false).length > 1 then
    some "only one [c*] repeat construct may appear in string2"
  else if b.any Part.isCase &&
      !(offsets size Part.isCase b).all (offsets size Part.isCase a).contains then
    some "misaligned [:upper:] and/or [:lower:] construct"
  else if !truncates && b.isEmpty && (complement || !a.isEmpty) then
    some "when not truncating set1, string2 must be non-empty"
  else if complement && a.any Part.isNamed && (expand 256 b).eraseDups.length > 1 &&
      (expand 256 b).length > 1 then
    some ("when translating with complemented character classes,\n" ++
      "string2 must map all characters in the domain to one")
  else if !truncates && !complement && (expand size b).length < size &&
      (b.getLast?.any Part.isNamed) then
    some ("when translating with string1 longer than string2,\n" ++
      "the latter string must not end with a character class")
  else none

def trOptions : List (String × Char × Arity) :=
  [("complement", 'c', .flag), ("delete", 'd', .flag), ("squeeze-repeats", 's', .flag),
    ("truncate-set1", 't', .flag)]

def tr (c : Context) : Answer :=
  withLeadingOptions c "tr" 1 "cCdst" trOptions fun o =>
    let complement := o.hasAny "cC"
    let deletes := o.has 'd'
    let squeezes := o.has 's'
    let fail (message : Octets) : Answer := .failure c 1 ("tr: ".toList ++ message)
    let most := if deletes && !squeezes then 1 else 2
    let least := if deletes == squeezes then 2 else 1
    let after (text : String) (s : Octets) (hint : String) : Answer :=
      fail (text.toList ++ quoted c s ++ (if hint.isEmpty then [] else '\n' :: hint.toList) ++
        tryHelp "tr")
    match o.operands with
    | [] => missingOperand c "tr"
    | sets =>
      if sets.length < least then
        after "missing operand after " (sets.headD [])
          (if squeezes then "Two strings must be given when both deleting and squeezing repeats."
          else "Two strings must be given when translating.")
      else if sets.length > most then
        after "extra operand " (sets.getD most [])
          (if most = 1 && sets.length = 2 then
            "Only one string may be given when deleting without squeezing repeats."
          else "")
      else match sets.mapM readSet with
        | .error message => fail message
        | .ok parsed =>
          let a := parsed.headD []
          let b := parsed.getD 1 []
          let members := expand 0 a
          let source := if complement then allBytes.filter fun d => !members.contains d
            else members
          let inSource (d : Char) : Bool := members.contains d != complement
          let isOpen : Part → Bool
            | .many _ none => true
            | _ => false
          if a.any isOpen then
            fail "the [c*] repeat construct may not appear in string1".toList
          else if (deletes || parsed.length = 1) && b.any isOpen then
            fail "the [c*] construct may appear in string2 only when translating".toList
          else if deletes then
            let last := expand 256 b
            filterInput c (!squeezes) fun s =>
              let kept := s.filter fun d => !inSource d
              if squeezes then squeeze last.contains kept else kept
          else if parsed.length = 1 then filterInput c false (squeeze inSource)
          else match pairComplaint? complement (o.has 't') a b with
            | some message => fail message.toList
            | none =>
              let target := expand source.length b
              let source := if o.has 't' then source.take target.length else source
              let table := tableOf source target
              filterInput c (!squeezes) fun s =>
                let out := s.map (translated table)
                if squeezes then squeeze target.contains out else out

/-! ## Lines backwards -/

def rev (c : Context) : Answer :=
  withContents c (c.args.filter fun a => a != ['-', '-']) fun contents =>
    let turn (s : Octets) : Octets :=
      let lines := Excerpt.linesOf '\n' s
      let text := joinWith ['\n'] (lines.map fun l => c.ofCharacters (c.characters l).reverse)
      if s.getLast? == some '\n' then text ++ ['\n'] else text
    .ends ⟨contents.map fun (file, content) =>
        match content with
        | .ok s => .out (turn s)
        | .error e => .err ("rev: cannot open ".toList ++ file ++ ": ".toList ++ errorText e ++
            ['\n']),
      if contents.any (fun (_, content) => !content.isOk) then 1 else 0, c.tree⟩

def recordsOf (separator : Octets) (fuel : Nat) (taken : Octets) (s : Octets) : List Octets :=
  match fuel, s with
  | 0, _ | _, [] => if taken.isEmpty then [] else [taken.reverse]
  | fuel + 1, ch :: rest =>
      if !separator.isEmpty && separator.isPrefixOf s then
        (taken.reverse ++ separator) :: recordsOf separator fuel [] (s.drop separator.length)
      else recordsOf separator fuel (ch :: taken) rest

/-- Where expressions match that separate parts, the last one first: each is the last that begins and
ends before the one behind it.  Fuel bounds how many there are. -/
def separatorsBack (r : Regex) (fuel : Nat) (s : List Char) : List (Nat × Nat) :=
  match fuel with
  | 0 => []
  | fuel + 1 =>
      let t : Regex.Subject := ⟨s.toArray, ⟨.exact, true⟩⟩
      let found? := (List.range s.length).reverse.findSome? fun i =>
        (r.matchAt t i).map fun (stop, _) => (i, stop)
      match found? with
      | some (start, stop) => (start, stop) :: separatorsBack r fuel (s.take start)
      | none => []

def partsBack (before : Bool) (r : Regex) (s : Octets) : Octets :=
  let found := separatorsBack r (s.length + 1) s
  let cuts := found.map fun (start, stop) => if before then start else stop
  let cuts := if before then cuts else cuts.filter (· < s.length)
  ((s.length :: cuts).zip (cuts ++ [0])).flatMap fun (stop, start) => (s.take stop).drop start

def tac (c : Context) : Answer :=
  let long : List (String × Char × Arity) :=
    [("before", 'b', .flag), ("regex", 'r', .flag), ("separator", 's', .required)]
  withOptions c "tac" 1 "brs:" long fun o =>
    let separator := (o.value? 's').getD ['\n']
    let backwards (s : Octets) : Octets :=
      if o.has 'b' then
        -- The separators go with what follows them.
        let parts := (recordsOf separator.reverse (s.length + 1) [] s.reverse).map List.reverse
        parts.flatten
      else (recordsOf separator (s.length + 1) [] s).reverse.flatten
    let expression? := if o.has 'r' then Regex.parse .basic (Regex.toBasic separator) else none
    let turned (s : Octets) : Octets := match expression? with
      | some r => partsBack (o.has 'b') r s
      | none => backwards s
    if o.has 'r' && expression?.isNone then
      .failure c 1 ("tac: ".toList ++ (Regex.complaint .basic separator).toList)
    else withContents c o.operands fun contents =>
      .ends ⟨contents.map fun (file, content) =>
          match content with
          | .ok s => .out (turned s)
          | .error (.os ⟨21⟩) =>
              .err ("tac: ".toList ++ file ++ ": read error: Is a directory\n".toList)
          | .error e =>
              .err ("tac: failed to open ".toList ++ quotedName file ++ " for reading: ".toList ++
                errorText e ++ ['\n']),
        if contents.any (fun (_, content) => !content.isOk) then 1 else 0, c.tree⟩

end Translate

end Utility

end Conformance
