import Conformance.Computer.Utility.Names
import Conformance.Computer.Utility.Search

/-!
# What stands in directories

The programs `ls` and `stat`, which show names and what is known about the entries behind them.
-/

namespace Conformance

namespace Utility

namespace Directory

open Files

/-- The number of places at which an entry stands; a directory also stands in itself and in those
below it. -/
def linkCount (t : FileTree) (n : Node) : Nat :=
  if n.entry.isDirectory then
    2 + (t.nodes.filter fun m =>
      m.entry.isDirectory && m.location.dropLast = n.location && m.location != []).length
  else (t.nodes.filter fun m => m.stamp.number = n.stamp.number).length

def sizeOf (n : Node) : Nat :=
  match n.entry with
  | .directory => 4096
  | .link target => target.text.utf8ByteSize
  | .file content => content.data.length

def blocksOf (n : Node) : Nat :=
  match n.entry with
  | .link _ => 0
  | _ => (sizeOf n + 4095) / 4096 * 4

def typeLetter (e : Entry) : Char :=
  match e with
  | .directory => 'd'
  | .link _ => 'l'
  | .file .fifo => 'p'
  | .file .null | .file .zeros | .file .full => 'c'
  | .file _ => '-'

/-- Something that `ls` shows: the name it prints, and the entry. -/
structure Item where
  name : Octets
  node : Node

/-- The sign that is put behind a name to tell its type. -/
def classMark (o : Options) (n : Node) : Octets :=
  match n.entry with
  | .directory => if o.hasAny "pF\x03" then ['/'] else []
  | .link _ => if o.hasAny "F\x03" then ['@'] else []
  | .file .fifo => if o.hasAny "F\x03" then ['|'] else []
  | .file .null | .file .zeros | .file .full => []
  | .file _ => if o.has 'F' && n.stamp.mode &&& 0o111 != 0 then ['*'] else []

def escapedName (spaces : Bool) (s : Octets) : Octets :=
  s.flatMap fun ch =>
    if ch < ' ' || ch ≥ '\x7f' then controlEscape ch
    else if ch == '\\' then "\\\\".toList
    else if spaces && ch == ' ' then "\\ ".toList
    else if !spaces && ch == '"' then "\\\"".toList
    else [ch]

def shownName (o : Options) (s : Octets) : Octets :=
  match o.lastOf "QbN" with
  | some 'Q' => '"' :: escapedName false s ++ ['"']
  | some 'b' => escapedName true s
  | _ => if o.has 'q' then s.map fun ch => if ch < ' ' || ch == '\x7f' then '?' else ch else s

def extensionOf (s : Octets) : Octets :=
  if s.contains '.' then '.' :: (s.reverse.takeWhile (· != '.')).reverse else []

def versionLess (fuel : Nat) (a b : Octets) : Bool :=
  match fuel, a, b with
  | 0, _, _ | _, _, [] => false
  | _, [], _ => true
  | fuel + 1, x :: as, y :: bs =>
      if x.isDigit && y.isDigit then
        let m := a.takeWhile Char.isDigit
        let n := b.takeWhile Char.isDigit
        let value (s : Octets) : Nat := (readNat? s).getD 0
        if value m != value n then value m < value n
        else versionLess fuel (a.drop m.length) (b.drop n.length)
      else if x == y then versionLess fuel as bs
      else if x == '.' then true
      else if y == '.' then false
      else x < y

def timeOf (o : Options) (s : Stamp) : Nat :=
  let words : List (String × Char) :=
    [("atime", 'u'), ("access", 'u'), ("use", 'u'), ("ctime", 'c'), ("status", 'c'),
      ("mtime", 'm'), ("modification", 'm'), ("birth", 'c'), ("creation", 'c')]
  let asked? := o.given.foldl (fun asked? (letter, v) =>
    if letter == 'u' || letter == 'c' then some letter
    else if letter == '\x10' then choice? words v else asked?) (none : Option Char)
  match asked? with
  | some 'u' => s.accessed
  | some 'c' => s.altered
  | _ => s.time

def comesFirst (o : Options) (a b : Item) : Bool :=
  let byName := a.name ≤ b.name
  let bySize (m n : Nat) : Bool := if m != n then m > n else byName
  match o.lastOf "tSXvU\x04" with
  | some 't' => bySize (timeOf o a.node.stamp) (timeOf o b.node.stamp)
  | some 'S' => bySize (sizeOf a.node) (sizeOf b.node)
  | some 'X' =>
      let x := extensionOf a.name
      let y := extensionOf b.name
      if x != y then x < y else byName
  | some 'v' =>
      let size := a.name.length + b.name.length + 1
      versionLess size a.name b.name || (!versionLess size b.name a.name && byName)
  | _ => byName

def sorted (t : FileTree) (o : Options) (items : List Item) : List Item :=
  let items := items.mergeSort (comesFirst o)
  let items := if o.has 'r' then items.reverse else items
  if o.has '\x05' then
    let leads (i : Item) : Bool := (match i.node.entry with
      | .link target => t.isDirectory i.node.location.dropLast target
      | e => e.isDirectory)
    items.filter leads ++ items.filter fun i => !leads i
  else items

def shownTime (c : Context) (o : Options) (micros : Nat) : Octets :=
  let seconds := micros / 1000000
  let recent := seconds ≤ c.now / 1000000 && c.now / 1000000 < seconds + 15778476
  let text (format : String) : Octets :=
    Format.dateText (seconds : Int) (micros % 1000000 * 1000) (format.length + 1) format.toList
  let style := if o.has '\x06' then "full-iso".toList else (o.value? '\x07').getD []
  if style = "full-iso".toList then text "%Y-%m-%d %H:%M:%S.%N %z"
  else if style = "long-iso".toList then text "%Y-%m-%d %H:%M"
  else if style = "iso".toList then text (if recent then "%m-%d %H:%M" else "%Y-%m-%d ")
  else if style.head? == some '+' then
    Format.dateText (seconds : Int) (micros % 1000000 * 1000) style.length (style.drop 1)
  else text (if recent then "%b %e %H:%M" else "%b %e  %Y")

def shortSize (n : Nat) : Octets :=
  if n < 1024 then Octets.ofNat n
  else
    let rec go (fuel unit : Nat) (letters : List Char) : Octets :=
      match fuel, letters with
      | fuel + 1, letter :: more =>
          if n < 10 * unit then
            let tenths := (10 * n + unit - 1) / unit
            if tenths < 100 then
              Octets.ofNat (tenths / 10) ++ '.' :: Octets.ofNat (tenths % 10) ++ [letter]
            else "10".toList ++ [letter]
          else if (n + unit - 1) / unit < 1024 || more.isEmpty then
            Octets.ofNat ((n + unit - 1) / unit) ++ [letter]
          else go fuel (1024 * unit) more
      | _, _ => Octets.ofNat n
    go 8 1024 ['K', 'M', 'G', 'T', 'P']

def lines (c : Context) (o : Options) (items : List Item) : List Octets :=
  let t := c.tree
  let size (n : Node) : Octets :=
    if o.has 'h' then shortSize (sizeOf n) else Octets.ofNat (sizeOf n)
  let widthOf (f : Item → Octets) : Nat := ((items.map fun i => (f i).length).max?).getD 0
  let number (i : Item) : Octets := Octets.ofNat i.node.stamp.number
  let blocks (i : Item) : Octets := Octets.ofNat (blocksOf i.node)
  let links (i : Item) : Octets := Octets.ofNat (linkCount t i.node)
  let isLong := o.hasAny "lgonG\x06"
  let user := if o.has 'n' then ['0'] else "root".toList
  items.map fun i =>
    let front := (if o.has 'i' then padLeft (widthOf number) (number i) ++ [' '] else []) ++
      (if o.has 's' then padLeft (widthOf blocks) (blocks i) ++ [' '] else [])
    let name := shownName o i.name
    if !isLong then front ++ name ++ classMark o i.node
    else
      let mode := typeLetter i.node.entry :: modeLetters i.node.stamp.mode
      let owners := (if o.has 'g' then [] else user ++ [' ']) ++
        (if o.hasAny "oG" then [] else user ++ [' '])
      let arrow := match i.node.entry with
        | .link target =>
            let mark := match t.lookup i.node.location.dropLast target true with
              | .ok (loc, _) => ((t.node? loc).map (classMark o)).getD []
              | .error _ => []
            " -> ".toList ++ Octets.ofString target.text ++ mark
        | _ => classMark o i.node
      front ++ mode ++ ' ' :: padLeft (widthOf links) (links i) ++ ' ' :: owners ++
        padLeft (widthOf fun i => size i.node) (size i.node) ++ ' ' ::
        shownTime c o (timeOf o i.node.stamp) ++ ' ' :: name ++ arrow

/-- How long lines are and how far apart tabs are; with no columns there is no limit, and no tabs. -/
structure Ruler where
  columns : Nat
  tab : Nat

def rulerFor (c : Context) (o : Options) : Except Octets Ruler := do
  let number (what : String) (s : Octets) : Except Octets Nat :=
    match readNat? s with
    | some n => .ok n
    | none => .error (("ls: invalid " ++ what ++ ": ").toList ++ quoted c s)
  let asked (letter : Char) (what name : String) (standard : Nat) :
      Except Octets Nat :=
    match o.value? letter with
    | some s => number what s
    | none => .ok (((c.environment.lookup name.toList).bind readNat?).getD standard)
  return ⟨← asked 'w' "line width" "COLUMNS" 80, ← asked 'T' "tab size" "TABSIZE" 8⟩

def columns (ruler : Ruler) (across : Bool) (texts : List Octets) : Octets :=
  let count := texts.length
  let cell (rows cols row col : Nat) : Option Octets :=
    texts[if across then row * cols + col else col * rows + row]?
  let widths (rows cols : Nat) : List Nat :=
    (List.range cols).map fun col =>
      max 3 ((((List.range rows).filterMap fun row => (cell rows cols row col).map fun s =>
        s.length + (if col + 1 = cols then 0 else 2)).max?).getD 0)
  let fits (cols : Nat) : Bool :=
    (widths ((count + cols - 1) / cols) cols).foldl (· + ·) 0 < ruler.columns
  let most := min count (max 1 ((ruler.columns + 2) / 3))
  let cols := (((List.range (most + 1)).drop 1).reverse.find? fits).getD 1
  let rows := (count + cols - 1) / cols
  let widths := widths rows cols
  if ruler.columns = 0 then joinWith "  ".toList texts ++ ['\n']
  else (List.range rows).flatMap fun row =>
    let cells := (List.range cols).filterMap fun col =>
      (cell rows cols row col).map fun s => (s, widths.getD col 0)
    let (line, _, _) := cells.foldl (fun (line, at', start) (s, width) =>
      (line ++ gap at' start ++ s, start + s.length, start + width)) ([], 0, 0)
    line ++ ['\n']
where
  /-- Goes from one column of the line to another with tabs where they fit. -/
  gap (here there : Nat) : Octets :=
    if _h : here < there then
      if _ : ruler.tab ≠ 0 ∧ there / ruler.tab > (here + 1) / ruler.tab then
        '\t' :: gap (here + (ruler.tab - here % ruler.tab)) there
      else ' ' :: gap (here + 1) there
    else []
  termination_by there - here
  decreasing_by
    · have := Nat.mod_lt here (Nat.pos_of_ne_zero (by omega : ruler.tab ≠ 0))
      omega
    · omega

def flowing (ruler : Ruler) (pos : Nat) : List Octets → Octets
  | [] => []
  | [s] => s ++ ['\n']
  | s :: next :: rest =>
      let pos := pos + s.length
      if ruler.columns = 0 || pos + next.length + 2 < ruler.columns then
        s ++ ", ".toList ++ flowing ruler (pos + 2) (next :: rest)
      else s ++ ",\n".toList ++ flowing ruler 0 (next :: rest)

def shownItems (c : Context) (o : Options) (items : List Item) : Octets :=
  let texts := lines c o items
  let ruler := (rulerFor c o).toOption.getD ⟨80, 8⟩
  match o.lastOf "Cxm1lgonG\x06" with
  | some 'm' => flowing ruler 0 texts
  | some 'C' => columns ruler false texts
  | some 'x' => columns ruler true texts
  | _ => (texts.map fun l => l ++ (if o.has '\x08' then ['\x00'] else ['\n'])).flatten

def itemsIn (c : Context) (o : Options) (loc : Location) : List Item :=
  let ignored := o.values 'I'
  let hidden := o.values '\x11'
  let names := (c.tree.names loc).map Octets.ofString
  let chosen := names.filter fun name =>
    (o.hasAny "aAf" || name.head? != some '.') &&
      !(o.has 'B' && name.getLast? == some '~') && !(ignored.any fun p => Search.fits [p] name) &&
      -- Names are hidden unless all are asked for.
      !(!o.hasAny "aAf" && hidden.any fun p => Search.fits [p] name)
  let own (name : Octets) (loc : Location) : List Item :=
    ((c.tree.node? loc).map fun node => (⟨name, node⟩ : Item)).toList
  let dots := if o.lastOf "aAf" == some 'a' || o.has 'f' then
      own ['.'] loc ++ own ['.', '.'] loc.dropLast
    else []
  dots ++ chosen.filterMap fun name =>
    (c.tree.node? (loc ++ [Octets.toText name])).map fun node =>
      let node := if o.has 'L' then
          match c.tree.lookup loc (pathOf name) true with
          | .ok (target, _) => (c.tree.node? target).getD node
          | .error _ => node
        else node
      ⟨name, node⟩

/-- What is printed about directories, the complaints, and the status. -/
structure Shown where
  prints : List Print
  status : Nat
  begun : Bool

/-- Shows a directory, and with an option those below it; fuel bounds how deep they nest. -/
def showDirectory (c : Context) (o : Options) (titled : Bool) (fuel : Nat) (s : Shown)
    (file : Octets) (loc : Location) : Shown :=
  match fuel with
  | 0 => s
  | fuel + 1 =>
    if !c.tree.mayRead loc then
      { s with
        prints := .err (about "ls" "cannot open directory" file (.os .accessDenied) ++ ['\n']) ::
          s.prints
        status := 2 }
    else
      let items := sorted c.tree o (itemsIn c o loc)
      let title := if titled then
          (if s.begun then ['\n'] else []) ++ shownName o file ++ ":\n".toList
        else []
      let total := if o.hasAny "lgonGs\x06" then
          "total ".toList ++ Octets.ofNat ((items.map fun i => blocksOf i.node).foldl (· + ·) 0) ++
            ['\n']
        else []
      let s := { s with
        prints := .out (title ++ total ++ shownItems c o items) :: s.prints
        begun := true }
      if !o.has 'R' then s
      else items.foldl (fun s i =>
        if i.node.entry.isDirectory && i.name != ['.'] && i.name != ['.', '.'] then
          showDirectory c o true fuel s (below file i.name) i.node.location
        else s) s

def lsOptions : List (String × Char × Arity) :=
  [("all", 'a', .flag), ("almost-all", 'A', .flag), ("directory", 'd', .flag),
    ("reverse", 'r', .flag), ("recursive", 'R', .flag), ("size", 's', .flag),
    ("inode", 'i', .flag), ("human-readable", 'h', .flag), ("numeric-uid-gid", 'n', .flag),
    ("no-group", 'G', .flag), ("quote-name", 'Q', .flag), ("escape", 'b', .flag),
    ("literal", 'N', .flag), ("hide-control-chars", 'q', .flag), ("ignore", 'I', .required),
    ("ignore-backups", 'B', .flag), ("dereference", 'L', .flag),
    ("dereference-command-line", 'H', .flag), ("color", '\x0e', .optional),
    ("file-type", '\x03', .flag), ("classify", 'F', .optional), ("sort", '\x04', .required),
    ("group-directories-first", '\x05', .flag), ("full-time", '\x06', .flag),
    ("time-style", '\x07', .required), ("zero", '\x08', .flag), ("show-control-chars", '\x0e', .flag),
    ("time", '\x10', .required), ("format", '\x0f', .required),
    ("indicator-style", '\x10', .required), ("width", 'w', .required),
    ("kibibytes", 'k', .flag), ("author", '\x0e', .flag), ("quoting-style", '\x0e', .required),
    ("block-size", '\x0e', .required), ("si", 'h', .flag), ("hide", '\x11', .required)]

def withWords (o : Options) : Options :=
  let letterOf (pair : Char × Octets) : Char × Octets :=
    let chosen (table : List (String × Char)) : Char × Octets :=
      match table.find? fun (word, _) => word.toList = pair.2 with
      | some (_, letter) => (letter, [])
      | none => pair
    if pair.1 == '\x04' then
      chosen [("time", 't'), ("size", 'S'), ("extension", 'X'), ("version", 'v'), ("none", 'U')]
    else if pair.1 == '\x0f' then
      chosen [("long", 'l'), ("verbose", 'l'), ("commas", 'm'), ("single-column", '1'),
        ("vertical", 'C'), ("across", 'x'), ("horizontal", 'x')]
    else if pair.1 == '\x10' then
      chosen [("slash", 'p'), ("classify", 'F'), ("file-type", '\x03')]
    else if pair.1 == 'F' && (pair.2 = "auto".toList || pair.2 = "never".toList) then
      ('\x0e', [])
    else pair
  { o with given := o.given.map letterOf }

/-- The program `ls` under one of its names, each of which stands for letters that are given first. -/
def list (program letters : String) (c : Context) : Answer :=
  withOptions c program 2 "aAbBcCdfFgGhHiI:klLmnNopqQrRsStT:uUvw:xX1Z" lsOptions fun o =>
    let o := withWords o
    match rulerFor c o with
    | .error report => .failure c 2 report
    | .ok _ =>
    -- A form that is asked for takes the place of the one that the program prefers.
    let preferred := letters.toList.filter fun l => !(o.hasAny "1Cmx" && "lC".toList.contains l)
    let o := { o with given := preferred.map (fun l => (l, [])) ++ o.given }
    let operands := if o.operands.isEmpty then [['.']] else o.operands
    let follows (e : Entry) : Bool :=
      o.hasAny "LH" || (e.isDirectory && !o.hasAny "dFlgonG\x06")
    let found := operands.map fun file =>
      let node (loc : Location) : Except IoError Item :=
        match c.tree.node? loc with
        | some n => .ok ⟨file, n⟩
        | none => .error (.os .noEntry)
      (file, (match c.tree.lookup c.directory (pathOf file) true,
          c.tree.lookup c.directory (pathOf file) false with
        | .ok (loc, e), .ok (own, _) => if follows e then node loc else node own
        | .error e, .ok (own, _) => if o.hasAny "L" then .error e else node own
        | _, .error e => .error e : Except IoError Item))
    let complaints := found.filterMap fun (file, item) => match item with
      | .error e => some (Print.err (about program "cannot access" file e ++ ['\n']))
      | .ok _ => none
    let items := sorted c.tree o (found.filterMap fun f => f.2.toOption)
    let plain := items.filter fun i => o.has 'd' || !i.node.entry.isDirectory
    let dirs := if o.has 'd' then [] else items.filter fun i => i.node.entry.isDirectory
    let titled := operands.length > 1 || o.has 'R'
    let first : Shown :=
      { prints := if plain.isEmpty then [] else [.out (shownItems c o plain)]
        status := 0
        begun := !plain.isEmpty }
    let s := dirs.foldl (fun s i => showDirectory c o titled 64 s i.name i.node.location) first
    .ends ⟨complaints ++ s.prints.reverse, if complaints.isEmpty then s.status else 2, c.tree⟩

def ls : Context → Answer := list "ls" ""

def dir : Context → Answer := list "dir" "Cb"

def vdir : Context → Answer := list "vdir" "lb"

/-! ## What is known about one entry -/

def typeName (n : Node) : Octets :=
  (match n.entry with
    | .directory => "directory"
    | .link _ => "symbolic link"
    | .file .fifo => "fifo"
    | .file .null | .file .zeros | .file .full => "character special file"
    | .file _ => if sizeOf n = 0 then "regular empty file" else "regular file").toList

/-- What a letter behind a backslash stands for, with how many characters it takes together with
those behind it. -/
def statEscape (letter : Char) (rest : Octets) : Octets × Nat :=
  let digits := (rest.take 2).takeWhile Format.isHexadecimal
  if Format.isOctal letter then
    let (ch, size) := Format.octal 3 (letter :: rest)
    ([ch], size)
  else if letter == 'x' && !digits.isEmpty then
    ([Char.ofNat (Format.valueIn 16 digits)], digits.length + 1)
  else ([(Format.escapeLetter? letter).getD letter], 1)

/-- The time that a letter stands for; that of the birth is taken for the last change of anything. -/
def timeFor (s : Stamp) (letter : Char) : Nat :=
  match letter.toUpper with
  | 'X' => s.accessed
  | 'Y' => s.time
  | _ => s.altered

/-- Fills in a format of letters behind percent signs.  Names are quoted, but for plain ones if
`bare` is set. -/
def statText (c : Context) (file : Octets) (n : Node) (bare escapes : Bool) (fuel : Nat)
    (format : Octets) : Octets :=
  match fuel, format with
  | 0, _ | _, [] => []
  | fuel + 1, '%' :: rest =>
      let flags := rest.takeWhile fun ch => ch == '-' || ch == '0' || ch == '#'
      let digits := (rest.drop flags.length).takeWhile Char.isDigit
      let width := (readNat? digits).getD 0
      let kind : Nat := match n.entry with
        | .directory => 0o040000
        | .link _ => 0o120000
        | .file .fifo => 0o010000
        | .file .null | .file .zeros | .file .full => 0o020000
        | .file _ => 0o100000
      match rest.drop (flags.length + digits.length) with
      | [] => ['%']
      | letter :: rest =>
          let s : Octets := match letter with
            | '%' => ['%']
            | 'n' => file
            | 'N' =>
                let shown (s : Octets) : Octets :=
                  if bare && !s.isEmpty && !s.any (fun ch => isShellSpecial false false ch) then s
                  else quotedName s
                shown file ++ (match n.entry with
                | .link target => " -> ".toList ++ shown (Octets.ofString target.text)
                | _ => [])
            | 's' => Octets.ofNat (sizeOf n)
            | 'a' => Nat.toDigits 8 n.stamp.mode
            | 'A' => typeLetter n.entry :: modeLetters n.stamp.mode
            | 'f' => Nat.toDigits 16 (kind + n.stamp.mode)
            | 'F' => typeName n
            | 'h' => Octets.ofNat (linkCount c.tree n)
            | 'i' => Octets.ofNat n.stamp.number
            | 'u' | 'g' => ['0']
            | 'U' | 'G' => "root".toList
            | 'b' => Octets.ofNat (2 * blocksOf n)
            | 'B' => "512".toList
            | 'o' => "4096".toList
            | 'X' | 'Y' | 'Z' | 'W' => Octets.ofNat (timeFor n.stamp letter / 1000000)
            | 'x' | 'y' | 'z' | 'w' =>
                let format := "%Y-%m-%d %H:%M:%S.%N %z".toList
                let time := timeFor n.stamp letter
                Format.dateText ((time / 1000000 : Nat) : Int) (time % 1000000 * 1000)
                  (format.length + 1) format
            | _ => ['?']
          (if flags.contains '-' then padRight width s
          else if flags.contains '0' then List.replicate (width - s.length) '0' ++ s
          else padLeft width s) ++
            statText c file n bare escapes fuel rest
  | fuel + 1, '\\' :: letter :: rest =>
      if !escapes then '\\' :: statText c file n bare escapes fuel (letter :: rest)
      else
        let (s, used) := statEscape letter rest
        s ++ statText c file n bare escapes fuel ((letter :: rest).drop used)
  | fuel + 1, ch :: rest => ch :: statText c file n bare escapes fuel rest

def stat (c : Context) : Answer :=
  let long : List (String × Char × Arity) :=
    [("format", 'c', .required), ("printf", '\x03', .required), ("dereference", 'L', .flag),
      ("terse", 't', .flag), ("file-system", 'f', .flag)]
  let standard := "  File: %N\n  Size: %-10s\tBlocks: %-10b IO Block: %-6o %F\n" ++
    "Device: 0,0\tInode: %-11i  Links: %h\n" ++
    "Access: (%04a/%A)  Uid: (    0/    root)   Gid: (    0/    root)\n" ++
    "Access: %x\nModify: %y\nChange: %z\n Birth: %w"
  let terse := "%n %s %b %f %u %g 0 %i %h 0 0 %X %Y %Z %W %o"
  withOptions c "stat" 1 "c:Lft" long fun o =>
    if o.operands.isEmpty then missingOperand c "stat"
    else
      let (format, escapes, ending) : Octets × Bool × Octets :=
        match o.lastOf "c\x03" with
        | some 'c' => ((o.value? 'c').getD [], false, ['\n'])
        | some _ => ((o.value? '\x03').getD [], true, [])
        | none => (if o.has 't' then terse.toList else standard.toList, false, ['\n'])
      let results := o.operands.map fun file =>
        match c.tree.lookup c.directory (pathOf file) (o.has 'L') with
        | .error e => (Print.err (about "stat" "cannot statx" file e ++ ['\n']), false)
        | .ok (loc, _) =>
            match c.tree.node? loc with
            | some n => (Print.out (statText c file n (!o.hasAny "c\x03") escapes (format.length + 1)
                format ++ ending), true)
            | none => (Print.out [], true)
      .ends ⟨results.map Prod.fst, if results.all Prod.snd then 0 else 1, c.tree⟩

end Directory

end Utility

end Conformance
