import Conformance.Computer.Text.Fraction
import Conformance.Computer.Utility.Excerpt

/-!
# Lines in order

The programs `sort` and `uniq`.
-/

namespace Conformance

namespace Utility

namespace Order

/-- What the text of a key is read as. -/
inductive Kind where
  | text
  | number
  | general
  | human
  | month
  | version
  deriving DecidableEq, Repr

structure Comparison where
  kind : Kind
  fold : Bool
  dictionary : Bool
  printable : Bool
  reversed : Bool
  deriving DecidableEq, Repr

def Comparison.plain : Comparison := ⟨.text, false, false, false, false⟩

/-- A part of a line: where it begins and where it ends. -/
structure Key where
  startField : Nat
  startChar : Nat
  endField : Option Nat
  endChar : Nat
  skipsAtStart : Bool
  skipsAtEnd : Bool
  comparison : Comparison
  deriving Repr

def isBlank (c : Char) : Bool := c == ' ' || c == '\t' || c == '\n'

def dropFields (separator? : Option Char) (n : Nat) (s : Octets) : Octets :=
  match n with
  | 0 => s
  | n + 1 =>
      match separator? with
      | some d => dropFields separator? n ((s.dropWhile (· != d)).drop 1)
      | none => dropFields separator? n ((s.dropWhile isBlank).dropWhile fun c => !isBlank c)

def afterKey (separator? : Option Char) (k : Key) (s : Octets) : Octets :=
  match k.endField with
  | none => []
  | some n =>
      if k.endChar = 0 then
        -- The whole of the last field belongs to the key, but no separator behind it.
        match separator? with
        | some d => (dropFields separator? n s).dropWhile (· != d)
        | none => dropFields none (n + 1) s
      else
        let rest := dropFields separator? n s
        let rest := if k.skipsAtEnd then rest.dropWhile isBlank else rest
        rest.drop k.endChar

def keyText (separator? : Option Char) (k : Key) (s : Octets) : Octets :=
  let start := dropFields separator? k.startField s
  let start := if k.skipsAtStart then start.dropWhile isBlank else start
  let start := start.drop k.startChar
  start.take (start.length - (afterKey separator? k s).length)

/-! ## Comparing -/

/-- A decimal number at the front of a text: its sign, its whole digits, those behind the point, and
what follows it. -/
structure Decimal where
  negative : Bool
  whole : Octets
  part : Octets
  rest : Octets

def readDecimal (s : Octets) : Decimal :=
  let s := s.dropWhile isBlank
  let negative := s.head? == some '-'
  let s := if negative then s.drop 1 else s
  let digits := s.takeWhile Char.isDigit
  match s.drop digits.length with
  | '.' :: rest =>
      let part := rest.takeWhile Char.isDigit
      ⟨negative, digits.dropWhile (· == '0'), part, rest.drop part.length⟩
  | rest => ⟨negative, digits.dropWhile (· == '0'), [], rest⟩

/-- The number as a whole one, with a number of digits behind the point. -/
def Decimal.scaled (d : Decimal) (places : Nat) : Int :=
  let digits := d.whole ++ d.part ++ List.replicate (places - d.part.length) '0'
  let n : Int := ((readNat? digits).getD 0 : Nat)
  if d.negative then -n else n

def Decimal.compare (a b : Decimal) : Ordering :=
  let places := max a.part.length b.part.length
  compareOfLessAndEq (a.scaled places) (b.scaled places)

def unitRank (d : Decimal) : Int :=
  let isZero := (d.whole ++ d.part).all (· == '0')
  match d.rest with
  | c :: _ =>
      let c := if c == 'k' then 'K' else c
      match "KMGTPEZYRQ".toList.findIdx? (· == c) with
      | some n =>
          if isZero then 0 else if d.negative then -((n : Int) + 1) else (n : Int) + 1
      | none => 0
  | [] => 0

def months : List String :=
  ["JAN", "FEB", "MAR", "APR", "MAY", "JUN", "JUL", "AUG", "SEP", "OCT", "NOV", "DEC"]

def monthRank (s : Octets) : Nat :=
  let name := ((s.dropWhile isBlank).take 3).map Char.toUpper
  match months.findIdx? fun m => m.toList = name with
  | some n => n + 1
  | none => 0

def compareTexts (a b : Octets) : Ordering :=
  if a = b then .eq else if a < b then .lt else .gt

/-- Where the part of a name begins that says what kind of file it is. -/
def stemLength (fuel i : Nat) (s : Octets) : Nat :=
  let isLetter (c : Char) : Bool := c.isAlpha || c == '~'
  let rec skip (fuel : Nat) (rest : Octets) : Octets :=
    match fuel, rest with
    | fuel + 1, '.' :: c :: rest =>
        if isLetter c then skip fuel (rest.dropWhile fun d => isLetter d || d.isDigit)
        else '.' :: c :: rest
    | _, rest => rest
  match fuel with
  | 0 => i
  | fuel + 1 =>
      match s with
      | [] => i
      | _ :: rest =>
          match skip (rest.length + 1) rest with
          | [] => i + 1
          | after => stemLength fuel (i + 1 + (rest.length - after.length)) after

/-- The rank of a character outside numbers: a tilde, the end, numbers, letters, others. -/
def versionRank : Octets → Int
  | [] => -1
  | c :: _ =>
      if c.isDigit then 0
      else if c.isAlpha then c.toNat
      else if c == '~' then -2
      else c.toNat + 256

def compareRuns (fuel : Nat) (a b : Octets) : Ordering :=
  match fuel with
  | 0 => .eq
  | fuel + 1 =>
    let startsNoNumber (s : Octets) : Bool := s.head?.any fun c => !c.isDigit
    if a.isEmpty && b.isEmpty then .eq
    else if startsNoNumber a || startsNoNumber b then
      match compareOfLessAndEq (versionRank a) (versionRank b) with
      | .eq => compareRuns fuel (a.drop 1) (b.drop 1)
      | o => o
    else
      let m := (a.takeWhile Char.isDigit).dropWhile (· == '0')
      let n := (b.takeWhile Char.isDigit).dropWhile (· == '0')
      match compareOfLessAndEq m.length n.length with
      | .eq =>
          match compareTexts m n with
          | .eq => compareRuns fuel (a.dropWhile Char.isDigit) (b.dropWhile Char.isDigit)
          | o => o
      | o => o

def compareVersions (a b : Octets) : Ordering :=
  let rank (s : Octets) : Nat :=
    if s.isEmpty then 0 else if s = ['.'] then 1 else if s = ['.', '.'] then 2
    else if s.head? == some '.' then 3 else 4
  let whole (a b : Octets) : Ordering := compareRuns (a.length + b.length + 1) a b
  match compareOfLessAndEq (rank a) (rank b) with
  | .eq =>
      let m := stemLength (a.length + 1) 0 a
      let n := stemLength (b.length + 1) 0 b
      match whole (a.take m) (b.take n) with
      | .eq => whole a b
      | o => o
  | o => o

def Comparison.compare (o : Comparison) (a b : Octets) : Ordering :=
  let general (s : Octets) : Nat × Float :=
    match Text.Fraction.read? Text.Fraction.double true s with
    | none => (0, 0)
    | some (.undefined _, _) => (1, 0)
    | some (x, _) => (2, x.toFloat)
  let ordering := match o.kind with
    | .number => (readDecimal a).compare (readDecimal b)
    | .general =>
        let (k, x) := general a
        let (l, y) := general b
        match compareOfLessAndEq k l with
        | .eq => if x < y then .lt else if y < x then .gt else .eq
        | other => other
    | .human =>
        match compareOfLessAndEq (unitRank (readDecimal a)) (unitRank (readDecimal b)) with
        | .eq => (readDecimal a).compare (readDecimal b)
        | other => other
    | .month => compareOfLessAndEq (monthRank a) (monthRank b)
    | .version => compareVersions a b
    | .text =>
        let counts (c : Char) : Bool :=
          if o.dictionary then c.isAlphanum || isBlank c
          else !o.printable || (' ' ≤ c && c ≤ '~')
        let seen (s : Octets) : Octets :=
          let s := s.filter counts
          if o.fold then s.map Char.toUpper else s
        compareTexts (seen a) (seen b)
  if o.reversed then ordering.swap else ordering

/-! ## Sorting -/

/-- What the letters behind the place of a key, or among the options, ask for. -/
def withLetter (o : Comparison) (letter : Char) : Comparison :=
  match letter with
  | 'n' => { o with kind := .number }
  | 'g' => { o with kind := .general }
  | 'h' => { o with kind := .human }
  | 'M' => { o with kind := .month }
  | 'V' => { o with kind := .version }
  | 'f' => { o with fold := true }
  | 'd' => { o with dictionary := true }
  | 'i' => { o with printable := true }
  | 'r' => { o with reversed := true }
  | _ => o

def keyLetters : Octets := "bdfghiMnRrV".toList

/-- The place in a field: a number, perhaps another one behind a point, and letters. -/
structure Place where
  field : Nat
  char : Option Nat
  letters : Octets
  rest : Octets

def readPlace (what : String) (s : Octets) : Except Octets Place := do
  let number (what : String) (s : Octets) : Except Octets (Nat × Octets) :=
    let digits := s.takeWhile Char.isDigit
    match readNat? digits with
    | some n => .ok (n, s.drop digits.length)
    | none => .error (what.toList ++ ": invalid count at start of ".toList ++
        Octets.ofString "‘" ++ s ++ Octets.ofString "’")
  let (field, rest) ← number ("invalid number at field " ++ what) s
  let (char, rest) ← match rest with
    | '.' :: rest => do
        let (n, rest) ← number "invalid number after '.'" rest
        pure (some n, rest)
    | rest => pure (none, rest)
  let letters := rest.takeWhile keyLetters.contains
  return ⟨field, char, letters, rest.drop letters.length⟩

def readKey (s : Octets) : Except Octets Key := do
  let bad (what : String) : Except Octets Key :=
    .error (what.toList ++ ": invalid field specification ".toList ++
      Octets.ofString "‘" ++ s ++ Octets.ofString "’")
  let first ← readPlace "start" s
  if first.field = 0 then bad "field number is zero"
  else if first.char = some 0 then bad "character offset is zero"
  else
    let key : Key :=
      { startField := first.field - 1
        startChar := (first.char.getD 1) - 1
        endField := none
        endChar := 0
        skipsAtStart := first.letters.contains 'b'
        skipsAtEnd := false
        comparison := first.letters.foldl withLetter .plain }
    match first.rest with
    | [] => return key
    | ',' :: rest => do
        let last ← readPlace "end" rest
        if last.field = 0 then bad "field number is zero"
        else if !last.rest.isEmpty then bad "stray character in field spec"
        else return { key with
          endField := some (last.field - 1)
          endChar := last.char.getD 0
          skipsAtEnd := last.letters.contains 'b'
          comparison := last.letters.foldl withLetter key.comparison }
    | _ => bad "stray character in field spec"

/-- How whole lines are compared. -/
structure Plan where
  keys : List Key
  separator? : Option Char
  whole : Bool
  reversed : Bool

def Plan.compareKeys (p : Plan) (a b : Octets) : Ordering :=
  let rec go : List Key → Ordering
    | [] => .eq
    | k :: rest =>
        match k.comparison.compare (keyText p.separator? k a) (keyText p.separator? k b) with
        | .eq => go rest
        | o => o
  go p.keys

def Plan.compare (p : Plan) (a b : Octets) : Ordering :=
  match p.compareKeys a b with
  | .eq =>
      if !p.whole then .eq
      else if p.reversed then (compareTexts a b).swap else compareTexts a b
  | o => o

/-- The first of each run of lines between which the plan sees no difference. -/
def Plan.distinct (p : Plan) (lines : List Octets) : List Octets :=
  (lines.foldl (fun (kept : List Octets) line =>
    match kept with
    | last :: _ => if p.compare last line = .eq then kept else line :: kept
    | [] => [line]) []).reverse

/-- The first line that does not stand behind the one before it, with its number. -/
def disorder? (p : Plan) (unique : Bool) : Nat → List Octets → Option (Nat × Octets)
  | n, a :: b :: rest =>
      let o := p.compare a b
      if o = .gt || (unique && o = .eq) then some (n + 1, b) else disorder? p unique (n + 1) (b :: rest)
  | _, _ => none

def sortOptions : List (String × Char × Arity) :=
  [("ignore-leading-blanks", 'b', .flag), ("check", 'c', .optional), ("dictionary-order", 'd', .flag),
    ("ignore-case", 'f', .flag), ("general-numeric-sort", 'g', .flag),
    ("ignore-nonprinting", 'i', .flag), ("key", 'k', .required), ("merge", 'm', .flag),
    ("month-sort", 'M', .flag), ("numeric-sort", 'n', .flag), ("human-numeric-sort", 'h', .flag),
    ("version-sort", 'V', .flag), ("random-sort", 'R', .flag), ("output", 'o', .required),
    ("reverse", 'r', .flag), ("stable", 's', .flag), ("buffer-size", 'S', .required),
    ("field-separator", 't', .required), ("temporary-directory", 'T', .required),
    ("unique", 'u', .flag), ("zero-terminated", 'z', .flag), ("sort", '\x03', .required),
    ("parallel", '\x04', .required), ("debug", '\x05', .flag)]

def kindNamed (name : Octets) : Option Char :=
  let names := [("general-numeric", 'g'), ("human-numeric", 'h'), ("month", 'M'), ("numeric", 'n'),
    ("random", 'R'), ("version", 'V')]
  names.findSome? fun (full, letter) => if name.isPrefixOf full.toList then some letter else none

/-- What is wrong with letters for ways to compare that do not go together. -/
def mixture? (letters : List Char) : Option Octets :=
  let kinds := ("nghM".toList.filter letters.contains).length +
    (if letters.any "VRid".toList.contains then 1 else 0)
  -- The later one of two filters is in force.
  let shown := "dfghiMnRV".toList.filter fun l =>
    letters.contains l && !(l == 'd' && letters.contains 'i')
  if kinds > 1 then
    some ("options '-".toList ++ shown ++ "' are incompatible".toList)
  else none

def planOf (o : Options) : Except Octets Plan := do
  let letters := o.given.filterMap fun (letter, value) =>
    if letter == '\x03' then kindNamed value
    else if keyLetters.contains letter then some letter else none
  let global := letters.foldl withLetter .plain
  let skips := letters.contains 'b'
  let keys ← (o.values 'k').mapM readKey
  let ways := if keys.isEmpty then [letters] else (o.values 'k').map fun v =>
    let own := v.filter Char.isAlpha
    if own.isEmpty then letters else own
  if let some message := ways.findSome? mixture? then throw message
  let keys := keys.map fun k =>
    if k.comparison = .plain && !k.skipsAtStart && !k.skipsAtEnd then
      { k with comparison := global, skipsAtStart := skips, skipsAtEnd := skips }
    else k
  let keys := if keys.isEmpty && (global != .plain || skips) then
      [⟨0, 0, none, 0, skips, skips, global⟩]
    else keys
  let separator? ← match o.value? 't' with
    | none => pure none
    | some ['\\', '0'] => pure (some '\x00')
    | some [d] => pure (some d)
    | some [] => throw "empty tab".toList
    | some s => throw ("multi-character tab ".toList ++ Octets.ofString "‘" ++ s ++
        Octets.ofString "’")
  return ⟨keys, separator?, !o.hasAny "su", letters.contains 'r'⟩

def sort (c : Context) : Answer :=
  withOptions c "sort" 2 "bcCdfghik:mMno:rRsS:t:T:uVz" sortOptions fun o =>
    match planOf o with
    | .error message => .failure c 2 ("sort: ".toList ++ message)
    | .ok p =>
      let ending := if o.has 'z' then '\x00' else '\n'
      let unique := o.has 'u'
      -- Without keys, lines that do not differ are the same.
      let p := if p.keys.isEmpty then { p with whole := true } else p
      let quiet := o.has 'C' ||
        (o.value? 'c').any fun v => v = "quiet".toList || v = "silent".toList
      if o.hasAny "cC" && o.operands.length > 1 then
        .failure c 2 ("sort: extra operand ".toList ++ quotedName (o.operands.getD 1 []) ++
          " not allowed with -".toList ++ [if quiet then 'C' else 'c'])
      else withContents c o.operands fun contents =>
        let failed := contents.findSome? fun (file, content) =>
          match content with
          | .ok _ => none
          | .error e => some (file, e)
        match failed with
        | some (file, e) =>
            let what := if e = .os .isDirectory then "sort: read failed: " else "sort: cannot read: "
            .failure c 2 (what.toList ++ file ++ ": ".toList ++ errorText e)
        | none =>
          let lines := contents.map fun (_, content) =>
            Excerpt.linesOf ending (content.toOption.getD [])
          let before (a b : Octets) : Bool := p.compare a b != .gt
          if o.hasAny "cC" then
            match disorder? p unique 1 lines.flatten with
            | none => .status c 0
            | some (n, line) =>
                if quiet then .status c 1
                else .failure c 1 ("sort: ".toList ++ o.operands.headD ['-'] ++ [':'] ++
                  Octets.ofNat n ++ ": disorder: ".toList ++ line)
          else
            let sorted := if o.has 'm' then
                lines.foldl (fun (merged : List Octets) l => List.merge merged l before) []
              else lines.flatten.mergeSort before
            let kept := if unique then p.distinct sorted else sorted
            let text := kept.flatMap fun line => line ++ [ending]
            match o.value? 'o' with
            | none => .ok c text
            | some file =>
                match writeFile c c.workingTree file false text with
                | .ok (t, prints) => .ends ⟨prints, 0, t⟩
                | .error e =>
                    .failure c 2 ("sort: open failed: ".toList ++ file ++ ": ".toList ++ errorText e)

/-! ## Runs of lines -/

def runsBy (same : Octets → Octets → Bool) (lines : List Octets) : List (List Octets) :=
  (lines.foldl (fun (runs : List (List Octets)) line =>
    match runs with
    | run :: others =>
        if (run.getLast?).any (same · line) then (line :: run) :: others else [line] :: runs
    | [] => [[line]]) []).reverse.map List.reverse

def uniqOptions : List (String × Char × Arity) :=
  [("count", 'c', .flag), ("repeated", 'd', .flag), ("all-repeated", 'D', .optional),
    ("skip-fields", 'f', .required), ("group", '\x03', .optional), ("ignore-case", 'i', .flag),
    ("skip-chars", 's', .required), ("unique", 'u', .flag), ("zero-terminated", 'z', .flag),
    ("check-chars", 'w', .required)]

/-- Runs of equal lines as the options show them, with what stands between them. -/
def showRuns (o : Options) (ending : Char) (runs : List (List Octets)) : List Octets :=
  let shown := runs.filter fun run =>
    if o.hasAny "dD" then run.length > 1 && !(o.has 'u' && !o.has 'D')
    else !o.has 'u' || run.length = 1
  let line (s : Octets) : Octets := s ++ [ending]
  if o.has '\x03' then
    let gap : List Octets := [[ending]]
    let groups := runs.map fun run => run.map line
    let inner := List.intercalate gap groups
    match (o.value? '\x03').getD [] with
    | 'p' :: _ => if runs.isEmpty then [] else gap ++ inner
    | 'a' :: _ => if runs.isEmpty then [] else inner ++ gap
    | 'b' :: _ => if runs.isEmpty then [] else gap ++ inner ++ gap
    | _ => inner
  else if o.has 'D' then
    let groups := shown.map fun run => run.map line
    match (o.value? 'D').getD [] with
    | 'p' :: _ => groups.flatMap fun g => [ending] :: g
    | 's' :: _ => List.intercalate [[ending]] groups
    | _ => groups.flatten
  else shown.map fun run =>
    let first := run.headD []
    if o.has 'c' then padLeft 7 (Octets.ofNat run.length) ++ ' ' :: line first else line first

def uniqConflict? (o : Options) : Option Octets :=
  if o.has '\x03' && o.hasAny "cdDu" then
    some "--group is mutually exclusive with -c/-d/-D/-u".toList
  else if o.has 'c' && o.has 'D' then
    some "printing all duplicated lines and repeat counts is meaningless".toList
  else none

def uniq (c : Context) : Answer :=
  -- A count behind a dash or a plus skips fields or characters.
  let args := c.args.flatMap fun a =>
    match a with
    | '-' :: d :: digits =>
        if (d :: digits).all Char.isDigit then ["-f".toList, d :: digits] else [a]
    | '+' :: d :: digits =>
        if (d :: digits).all Char.isDigit then ["-s".toList, d :: digits] else [a]
    | a => [a]
  withOptions { c with args } "uniq" 1 "cdDf:is:uw:z" uniqOptions fun o =>
    let number (letter : Char) : Option Nat := (o.value? letter).bind readNat?
    let bad? := [('f', "fields to skip"), ('s', "bytes to skip"), ('w', "bytes to compare")].find?
      fun (letter, _) => (o.value? letter).isSome && (number letter).isNone
    match bad? with
    | some (letter, what) =>
        .failure c 1 ("uniq: ".toList ++ (o.value? letter).getD [] ++
          (": invalid number of " ++ what).toList)
    | none =>
      match o.operands, uniqConflict? o with
      | _ :: _ :: extra :: _, _ => extraOperand c "uniq" extra
      | _, some message => .failure c 1 ("uniq: ".toList ++ message ++ tryHelp "uniq")
      | operands, none =>
        let file := operands.headD ['-']
        let ending := if o.has 'z' then '\x00' else '\n'
        let keyOf (line : Octets) : Octets :=
          let rest := dropFields none ((number 'f').getD 0) line
          let rest := rest.drop ((number 's').getD 0)
          let rest := match number 'w' with
            | some n => rest.take n
            | none => rest
          if o.has 'i' then rest.map Char.toLower else rest
        withContents c [file] fun contents =>
          match contents with
          | [(_, .ok s)] =>
              let runs := runsBy (fun a b => keyOf a = keyOf b) (Excerpt.linesOf ending s)
              let text := (showRuns o ending runs).flatten
              match operands[1]? with
              | none | some ['-'] => .ok c text
              | some target =>
                  match writeFile c c.workingTree target false text with
                  | .ok (t, prints) => .ends ⟨prints, 0, t⟩
                  | .error e =>
                      .failure c 1 ("uniq: ".toList ++ target ++ ": ".toList ++ errorText e)
          | (file, .error e) :: _ =>
              if e = .os .isDirectory then
                .failure c 1 ("uniq: error reading ".toList ++ quotedName file ++
                  ": Is a directory".toList)
              else .failure c 1 ("uniq: ".toList ++ file ++ ": ".toList ++ errorText e)
          | _ => .status c 0

end Order

end Utility

end Conformance
