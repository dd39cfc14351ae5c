import Conformance.Computer.Utility.Basic

/-!
# Parts of files

The programs `cat`, `head`, `tail` and `cut`, which print files, or parts of them that are told by
place.
-/

namespace Conformance

namespace Utility

namespace Excerpt

def zeros : Octets := List.replicate 4096 '\x00'

/-- A time so long that nothing waits for its end. -/
def forever : Nat := 10 ^ 18

/-! ## Whole files -/

/-- How `cat` shows what it prints. -/
structure Show where
  numbers : Bool
  onlyFilled : Bool
  squeezes : Bool
  ends : Bool
  tabs : Bool
  control : Bool

/-- Where `cat` stands: the number of the last line, whether a line has begun, and how many empty
lines came last. -/
structure Progress where
  number : Nat
  inLine : Bool
  blank : Nat

def visible (s : Show) (ch : Char) : Octets :=
  let low (ch : Char) : Octets :=
    if ch < ' ' then ['^', Char.ofNat (ch.toNat + 64)]
    else if ch == '\x7f' then ['^', '?']
    else [ch]
  if ch == '\t' then (if s.tabs then ['^', 'I'] else ['\t'])
  else if !s.control then [ch]
  else if ch.toNat ≥ 128 then 'M' :: '-' :: low (Char.ofNat (ch.toNat - 128))
  else low ch

def showFrom (s : Show) (p : Progress) (out : Octets) : Octets → Progress × Octets
  | [] => (p, out)
  | ch :: rest =>
      let isEmpty := ch == '\n' && !p.inLine
      let blank := if isEmpty then p.blank + 1 else 0
      if isEmpty && s.squeezes && blank > 1 then showFrom s { p with blank } out rest
      else
        let numbered := !p.inLine && s.numbers && !(s.onlyFilled && isEmpty)
        let number := if numbered then p.number + 1 else p.number
        let label := if numbered then padLeft 6 (Octets.ofNat number) ++ ['\t'] else []
        let shown := if ch == '\n' then (if s.ends then ['$', '\n'] else ['\n']) else visible s ch
        showFrom s ⟨number, ch != '\n', if p.inLine && ch == '\n' then 0 else blank⟩
          (shown.reverse ++ label.reverse ++ out) rest

def ownOutput? (c : Context) : Option Location := (c.descriptors.lookup 1).bind id

def cat (c : Context) : Answer :=
  let long : List (String × Char × Arity) :=
    [("show-all", 'A', .flag), ("number-nonblank", 'b', .flag), ("show-ends", 'E', .flag),
      ("number", 'n', .flag), ("squeeze-blank", 's', .flag), ("show-tabs", 'T', .flag),
      ("show-nonprinting", 'v', .flag)]
  withOptions c "cat" 1 "AbeEnstTuv" long fun o =>
    let s : Show :=
      { numbers := o.hasAny "bn"
        onlyFilled := o.has 'b'
        squeezes := o.has 's'
        ends := o.hasAny "AEe"
        tabs := o.hasAny "ATt"
        control := o.hasAny "Aevt" }
    let isPlain := !o.hasAny "AbeEnstTv"
    if o.operands.any (isZeros c) then .goesOn zeros
    else if isPlain && o.operands.all isInput then filterInput c true id
    else withContents c o.operands fun contents =>
      let isOutput (file : Octets) (text : Octets) : Bool :=
        !text.isEmpty && (match c.tree.lookup c.directory (pathOf file) true with
          | .ok (loc, .file (.bytes _)) => ownOutput? c = some loc
          | _ => false)
      let (prints, _, failed) := contents.foldl
        (fun ((prints, p, failed) : List Print × Progress × Bool) (file, content) =>
          match content with
          | .error e => (unreadable "cat" file e :: prints, p, true)
          | .ok text =>
              if isOutput file text then
                (.err ("cat: ".toList ++ file ++ ": input file is output file\n".toList) :: prints,
                  p, true)
              else if isPlain then (.out text :: prints, p, failed)
              else
                let (p, out) := showFrom s p [] text
                (.out out.reverse :: prints, p, failed)) ([], ⟨0, false, 0⟩, false)
      .ends ⟨prints.reverse, if failed then 1 else 0, c.tree⟩

/-! ## Beginnings and ends -/

/-- The number that a letter or more behind a count stands for. -/
def multiplier? (s : Octets) : Option Nat :=
  let powers := ["K", "M", "G", "T", "P", "E", "Z", "Y"]
  match s with
  | [] => some 1
  | ['b'] => some 512
  | ['k'] => some 1024
  | ['k', 'B'] => some 1000
  | _ => powers.zipIdx.findSome? fun (p, n) =>
      if s = p.toList || s = p.toList ++ ['i', 'B'] then some (1024 ^ (n + 1))
      else if s = p.toList ++ ['B'] then some (1000 ^ (n + 1))
      else none

def readCount? (s : Octets) : Option Nat :=
  let digits := s.takeWhile Char.isDigit
  match readNat? digits, multiplier? (s.drop digits.length) with
  | some n, some m => some (n * m)
  | none, some m => if s.isEmpty || m = 1 then none else some m
  | _, _ => none

def firstLines (ending : Char) (n : Nat) (s : Octets) : Octets :=
  match n with
  | 0 => []
  | n + 1 =>
      let line := s.takeWhile (· != ending)
      match s.drop line.length with
      | [] => line
      | _ :: rest => line ++ ending :: firstLines ending n rest

/-- How many lines a text has; the last need not be ended. -/
def lineCount (ending : Char) (s : Octets) : Nat :=
  (s.filter (· == ending)).length +
    (if s.isEmpty || s.getLast? == some ending then 0 else 1)

/-- The files one after the other, each under its name if there are several or it is asked for. -/
def withTitles (program : String) (c : Context) (titled quiet : Bool) (files : List Octets)
    (f : Octets → Octets) : Answer :=
  withContents c files fun contents =>
    let titles := (titled || contents.length > 1) && !quiet
    let (prints, _, failed) := contents.foldl
      (fun ((prints, isFirst, failed) : List Print × Bool × Bool) (file, content) =>
        let name := if isInput file then "standard input".toList else file
        let title : Octets := if titles then
            (if isFirst then [] else ['\n']) ++ "==> ".toList ++ name ++ " <==\n".toList
          else []
        match content with
        | .ok s => (.out (title ++ f s) :: prints, false, failed)
        | .error (.os ⟨21⟩) =>
            (.err ((program ++ ": error reading ").toList ++ quotedName file ++
              ": Is a directory\n".toList) :: .out title :: prints, false, true)
        | .error e =>
            (.err ((program ++ ": cannot open ").toList ++ quotedName file ++
              " for reading: ".toList ++ errorText e ++ ['\n']) :: prints, isFirst, true))
      ([], true, false)
    .ends ⟨(prints.reverse.filter fun p => !p.text.isEmpty), if failed then 1 else 0, c.tree⟩

/-- The arguments with a count behind one dash, as it was written once, in its present form. -/
def withOldCount (c : Context) : Context :=
  match c.args with
  | ('-' :: d :: more) :: rest =>
      let digits := (d :: more).takeWhile Char.isDigit
      let letters := (d :: more).drop digits.length
      if digits.isEmpty || !letters.all fun ch => "bckmlqvf".toList.contains ch then c
      else
        let unit : Octets := (letters.filter fun ch => "bkm".toList.contains ch).map fun ch =>
          if ch == 'm' then 'M' else ch
        let bytes := letters.any fun ch => "bckm".toList.contains ch
        let flags : List Octets := (letters.filter fun ch => "qvf".toList.contains ch).map fun ch =>
          ['-', ch]
        { c with args := (if bytes then ['-', 'c'] else ['-', 'n']) :: (digits ++ unit) ::
            flags ++ rest }
  | _ => c

def head (c : Context) : Answer :=
  let long : List (String × Char × Arity) :=
    [("bytes", 'c', .required), ("lines", 'n', .required), ("quiet", 'q', .flag),
      ("silent", 'q', .flag), ("verbose", 'v', .flag), ("zero-terminated", 'z', .flag)]
  withOptions (withOldCount c) "head" 1 "c:n:qvz" long fun o =>
    let bytes := o.lastOf "cn" == some 'c'
    let given := (o.lastOf "cn").bind o.value?
    let count := given.getD ['1', '0']
    let fromEnd := count.head? == some '-'
    let number? (s : Octets) : Option Nat :=
      readCount? (if s.head? == some '-' || s.head? == some '+' then s.drop 1 else s)
    let wrong? := o.given.find? fun (letter, v) =>
      (letter == 'c' || letter == 'n') && (number? v).isNone
    match wrong?, number? count with
    | some (letter, v), _ =>
        .failure c 1 ((if letter == 'c' then "head: invalid number of bytes: "
          else "head: invalid number of lines: ").toList ++ quoted c v)
    | none, none => .status c 1
    | none, some n =>
        let ending := if o.has 'z' then '\x00' else '\n'
        let cut (s : Octets) : Octets :=
          if fromEnd then
            if bytes then s.take (s.length - n)
            else firstLines ending (lineCount ending s - n) s
          else if bytes then s.take n
          else firstLines ending n s
        let enough := !fromEnd &&
          (if bytes then c.input.length ≥ n else (c.input.filter (· == ending)).length ≥ n)
        let quiet := o.lastOf "qv" == some 'q'
        match o.operands with
        | [] | [['-']] =>
            if enough || c.inputEnded then
              withTitles "head" { c with inputEnded := true } (o.lastOf "qv" == some 'v') quiet
                o.operands cut
            else .more
        | [file] =>
            if bytes && !fromEnd && isZeros c file then .ok c (List.replicate n '\x00')
            else withTitles "head" c (o.lastOf "qv" == some 'v') quiet [file] cut
        | files => withTitles "head" c (o.lastOf "qv" == some 'v') quiet files cut

def tail (c : Context) : Answer :=
  let long : List (String × Char × Arity) :=
    [("bytes", 'c', .required), ("lines", 'n', .required), ("quiet", 'q', .flag),
      ("silent", 'q', .flag), ("verbose", 'v', .flag), ("zero-terminated", 'z', .flag),
      ("follow", 'f', .optional), ("retry", '\x03', .flag), ("pid", '\x04', .required),
      ("sleep-interval", 's', .required)]
  let c := match c.args with
    | ('+' :: d :: digits) :: rest =>
        if (d :: digits).all Char.isDigit && rest.length ≤ 1 then
          { c with args := ['-', 'n'] :: ('+' :: d :: digits) :: rest }
        else c
    | _ => c
  let old := withOldCount c
  let isOld := old.args != c.args
  let isMisused := match c.args with
    | ('-' :: d :: more) :: rest =>
        d.isDigit && (rest.length > 1 || !isOld || more.contains 'q' || more.contains 'v')
    | _ => false
  let c := old
  if isMisused then
    .failure c 1 ("tail: option used in invalid context -- ".toList ++
      ((c.args.getD 1 []).take 1))
  else withOptions c "tail" 1 "c:n:qvzfFs:" long fun o =>
    let bytes := o.lastOf "cn" == some 'c'
    let count := ((o.lastOf "cn").bind o.value?).getD ['1', '0']
    -- Once a count is from the start, all counts are.
    let fromStart := o.given.any fun (letter, v) =>
      (letter == 'c' || letter == 'n') && v.head? == some '+'
    match readCount? (if count.head? == some '+' || count.head? == some '-' then count.drop 1 else count) with
    | none =>
        .failure c 1 ((if bytes then "tail: invalid number of bytes: "
          else "tail: invalid number of lines: ").toList ++ quoted c count)
    | some n =>
        let ending := if o.has 'z' then '\x00' else '\n'
        let cut (s : Octets) : Octets :=
          if bytes then
            if fromStart then s.drop (n - 1) else s.drop (s.length - n)
          else
            let skipped := if fromStart then n - 1 else lineCount ending s - n
            s.drop (firstLines ending skipped s).length
        let quiet := o.lastOf "qv" == some 'q'
        if n = 0 && !fromStart && !o.hasAny "fF" then .status c 0
        else match withTitles "tail" c (o.lastOf "qv" == some 'v') quiet o.operands cut with
        | .ends r =>
            let isEndless := o.hasAny "fF" && (r.status = 0 || o.has 'F') && !o.operands.isEmpty
            if isEndless then
              .pause (r.prints.flatMap fun p => if p.descriptor = 1 then p.text else []) forever
            else .ends r
        | answer => answer

/-! ## Columns -/

def spansOf? (s : Octets) : Except String (List (Nat × Option Nat)) :=
  (((s.map fun ch => if ch == ' ' || ch == '\t' then ',' else ch) |> splitAt ',')).mapM fun item =>
    match splitAt '-' item with
    | [n] =>
        match readNat? n with
        | some 0 => .error "numbered from 1"
        | some n => .ok (n, some n)
        | none => .error "invalid"
    | [low, high] =>
        match readNat? low, readNat? high with
        | some 0, _ => .error "numbered from 1"
        | some low, some high => if high < low then .error "decreasing" else .ok (low, some high)
        | some low, none => if high.isEmpty then .ok (low, none) else .error "invalid"
        | none, some 0 => .error "decreasing"
        | none, some high => if low.isEmpty then .ok (1, some high) else .error "invalid"
        | none, none =>
            .error (if low.isEmpty && high.isEmpty then "no endpoint" else "invalid")
    | _ => .error "invalid"

def isListed (spans : List (Nat × Option Nat)) (n : Nat) : Bool :=
  spans.any fun (low, high) => low ≤ n && high.all (n ≤ ·)

def beginsSpan (spans : List (Nat × Option Nat)) (n : Nat) : Bool :=
  spans.any fun (low, _) => low = n && !spans.any fun (low', high') =>
    low' < n && high'.all (n ≤ ·)

def cutLine (o : Options) (spans : List (Nat × Option Nat)) (line : Octets) : Option Octets :=
  let chosen (n : Nat) : Bool := isListed spans n != o.has '\x03'
  let between? := o.value? '\x04'
  if o.has 'f' then
    let delimiter := match o.value? 'd' with
      | some (d :: _) => d
      | some [] => '\x00'
      | none => '\t'
    let fields := splitAt delimiter line
    if fields.length = 1 then (if o.has 's' then none else some line)
    else some (joinWith (between?.getD [delimiter])
      ((fields.zipIdx.filter fun (_, n) => chosen (n + 1)).map Prod.fst))
  else
    match between? with
    | none => some ((line.zipIdx.filter fun (_, n) => chosen (n + 1)).map Prod.fst)
    | some between =>
        let kept := line.zipIdx.filter fun (_, n) => chosen (n + 1)
        some (kept.zipIdx.flatMap fun ((ch, n), k) =>
          let isNew := if o.has '\x03' then !chosen n else beginsSpan spans (n + 1)
          if k > 0 && isNew then between ++ [ch] else [ch])

def linesOf (ending : Char) (s : Octets) : List Octets :=
  let parts := splitAt ending s
  if parts.getLast? == some [] then parts.dropLast else parts

def cut (c : Context) : Answer :=
  let long : List (String × Char × Arity) :=
    [("bytes", 'b', .required), ("characters", 'c', .required), ("fields", 'f', .required),
      ("delimiter", 'd', .required), ("only-delimited", 's', .flag),
      ("output-delimiter", '\x04', .required), ("complement", '\x03', .flag),
      ("zero-terminated", 'z', .flag)]
  withOptions c "cut" 1 "b:c:d:f:nsz" long fun o =>
    let fail (message : String) : Answer :=
      .failure c 1 (("cut: " ++ message).toList ++ tryHelp "cut")
    let lists := ['b', 'c', 'f'].flatMap o.values
    if (o.values 'd').any fun d => d.length > 1 then
      fail "the delimiter must be a single character"
    else match lists with
    | [] => fail "you must specify a list of bytes, characters, or fields"
    | [list] =>
        if !o.has 'f' && o.has 'd' then
          fail "an input delimiter may be specified only when operating on fields"
        else if !o.has 'f' && o.has 's' then
          fail ("suppressing non-delimited lines makes sense\n\tonly when operating on fields")
        else match spansOf? list with
          | .error "numbered from 1" =>
              fail (if o.has 'f' then "fields are numbered from 1"
                else "byte/character positions are numbered from 1")
          | .error "decreasing" => fail "invalid decreasing range"
          | .error "no endpoint" => fail "invalid range with no endpoint: -"
          | .error _ =>
              .failure c 1 ((if o.has 'f' then "cut: invalid field value "
                else "cut: invalid byte/character position ").toList ++ quoted c list ++
                tryHelp "cut")
          | .ok spans =>
              let ending := if o.has 'z' then '\x00' else '\n'
              filterFiles "cut" c o.operands fun s =>
                (linesOf ending s).flatMap fun line =>
                  match cutLine o spans line with
                  | some kept => kept ++ [ending]
                  | none => []
    | _ => fail "only one list may be specified"

end Excerpt

end Utility

end Conformance
