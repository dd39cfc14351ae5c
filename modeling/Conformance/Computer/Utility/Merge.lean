import Conformance.Computer.Utility.Order

/-!
# Two sorted files

The programs `comm` and `join`, which go through two files side by side.  They expect lines in
order, and say so where they find a line that does not stand behind the one before it.
-/

namespace Conformance

namespace Utility

namespace Merge

open Utility.Order

/-- When a line that does not stand behind the one before it is complained about. -/
inductive Watch where
  | never
  | lenient
  | strict
  deriving DecidableEq, Repr

def watchOf (o : Options) : Watch :=
  match o.lastOf "kn" with
  | some 'k' => .strict
  | some _ => .never
  | none => .lenient

structure Row where
  number : Nat
  text : Octets
  fields : List Octets

def rowsOf (fields : Octets → List Octets) (lines : List Octets) : List Row :=
  lines.zipIdx.map fun (l, n) => ⟨n + 1, l, fields l⟩

/-- How far the work on two files has come. -/
structure Course where
  prints : List Print
  unpaired : Bool
  warned : List Bool
  stopped : Bool

namespace Course

def start : Course := ⟨[], false, [], false⟩

def put (s : Course) (text : Octets) : Course :=
  if s.stopped then s else { s with prints := .out text :: s.prints }

def alone (s : Course) : Course := { s with unpaired := true }

def check (s : Course) (w : Watch) (second ordered : Bool) (complaint : Octets) : Course :=
  let minds := match w with
    | .never => false
    | .lenient => s.unpaired
    | .strict => true
  if ordered || !minds || s.stopped || s.warned.contains second then s
  else { s with
    prints := .err (complaint ++ ['\n']) :: s.prints
    warned := second :: s.warned
    stopped := w = .strict }

def result (s : Course) (c : Context) (program : String) (last : Octets) : Answer :=
  let s := if last.isEmpty then s else s.put last
  let closing := if s.warned.isEmpty || s.stopped then []
    else [Print.err (program ++ ": input is not in sorted order\n").toList]
  .ends ⟨s.prints.reverse ++ closing, if s.warned.isEmpty then 0 else 1, c.tree⟩

end Course

/-- The lines of two sorted lists: in which of them each stands. -/
def together (fuel : Nat) (a b : List Octets) : List (Nat × Octets) :=
  match fuel, a, b with
  | 0, _, _ | _, [], [] => []
  | fuel + 1, x :: a, [] => (1, x) :: together fuel a []
  | fuel + 1, [], y :: b => (2, y) :: together fuel [] b
  | fuel + 1, x :: a, y :: b =>
      match compareTexts x y with
      | .lt => (1, x) :: together fuel a (y :: b)
      | .gt => (2, y) :: together fuel (x :: a) b
      | .eq => (3, x) :: together fuel a b

def withTwo (program : String) (c : Context) (ending : Char) (operands : List Octets)
    (k : Octets → Octets → List Octets → List Octets → Answer) : Answer :=
  match operands with
  | [a, b] =>
      withContents c [a, b] fun contents =>
        match contents with
        | [(_, .ok s), (_, .ok t)] => k a b (Excerpt.linesOf ending s) (Excerpt.linesOf ending t)
        | _ =>
            match contents.findSome? fun (file, content) => match content with
                | .ok _ => none
                | .error e => some (file, e) with
            | some (file, e) =>
                .failure c 1 (program.toList ++ ": ".toList ++ file ++ ": ".toList ++ errorText e)
            | none => .status c 1
  | [] => missingOperand c program
  | [a] => .failure c 1 (program.toList ++ ": missing operand after ".toList ++ quoted c a ++
      tryHelp program)
  | _ :: _ :: extra :: _ => extraOperand c program extra

/-- Takes the next line of a list, and looks whether it stands behind the one before it.  At the end
the last two lines are looked at once more. -/
def checkNext (w : Watch) (second : Bool) (before : Option Octets) (line : Octets)
    (rest : List Octets) (s : Course) : Course :=
  let complaint := ("comm: file " ++ (if second then "2" else "1") ++
    " is not in sorted order").toList
  match rest, before with
  | next :: _, _ => s.check w second (compareTexts line next != .gt) complaint
  | [], some before => s.check w second (compareTexts before line != .gt) complaint
  | [], none => s

/-- Goes through two lists of lines and prints each line in the column of the files it is in.  The
lines before the ones at hand are known; fuel bounds the number of lines. -/
def inColumns (w : Watch) (column : Nat → Octets → Octets) (fuel : Nat)
    (before : Option Octets × Option Octets) (a b : List Octets) (s : Course) : Course :=
  match fuel with
  | 0 => s
  | fuel + 1 =>
    let first (x : Octets) (a b : List Octets) : Course :=
      let s := (s.put (column 1 x)).alone
      inColumns w column fuel (some x, before.2) a b (checkNext w false before.1 x a s)
    let second (y : Octets) (a b : List Octets) : Course :=
      let s := (s.put (column 2 y)).alone
      inColumns w column fuel (before.1, some y) a b (checkNext w true before.2 y b s)
    match a, b with
    | [], [] => s
    | x :: a, [] => first x a []
    | [], y :: b => second y [] b
    | x :: a, y :: b =>
        match compareTexts x y with
        | .lt => first x a (y :: b)
        | .gt => second y (x :: a) b
        | .eq =>
            let s := s.put (column 3 x)
            let s := checkNext w false before.1 x a s
            inColumns w column fuel (some x, some y) a b (checkNext w true before.2 y b s)

def comm (c : Context) : Answer :=
  let long : List (String × Char × Arity) :=
    [("output-delimiter", 'd', .required), ("check-order", 'k', .flag),
      ("nocheck-order", 'n', .flag), ("total", 't', .flag), ("zero-terminated", 'z', .flag)]
  withOptions c "comm" 1 "123z" long fun o =>
    let ending := if o.has 'z' then '\x00' else '\n'
    let delimiters := o.values 'd'
    if delimiters.any (some · != delimiters.head?) then
      .failure c 1 "comm: multiple output delimiters specified".toList
    else withTwo "comm" c ending o.operands fun _ _ a b =>
      let delimiter := ((o.value? 'd').map fun d => if d.isEmpty then ['\x00'] else d).getD ['\t']
      let shows (n : Nat) : Bool := !o.has (Char.ofNat ('0'.toNat + n))
      let column (n : Nat) (s : Octets) : Octets :=
        if shows n then
          ((List.range (n - 1)).filter fun k => shows (k + 1)).flatMap (fun _ => delimiter) ++ s ++
            [ending]
        else []
      let size := a.length + b.length + 1
      let count (n : Nat) : Octets :=
        Octets.ofNat ((together size a b).filter fun l => l.1 = n).length
      let totals : Octets := if o.has 't' then
          joinWith delimiter [count 1, count 2, count 3, "total".toList] ++ [ending]
        else []
      (inColumns (watchOf o) column size (none, none) a b .start).result c "comm" totals

/-- What stands between the fields of a line. -/
inductive Separation where
  | blanks
  | character (c : Char)
  | none
  deriving DecidableEq, Repr

namespace Separation

def printed : Separation → Char
  | blanks => ' '
  | character c => c
  | none => '\n'

def words (fuel : Nat) (s : Octets) : List Octets :=
  let isBlank (c : Char) : Bool := c == ' ' || c == '\t' || c == '\n'
  match fuel with
  | 0 => []
  | fuel + 1 =>
      let word := s.takeWhile fun c => !isBlank c
      match s.drop word.length with
      | [] => [word]
      | rest => word :: words fuel (rest.dropWhile isBlank)

def fields (t : Separation) (line : Octets) : List Octets :=
  if line.isEmpty then []
  else match t with
    | character c => splitAt c line
    | none => [line]
    | blanks =>
        match line.dropWhile fun c => c == ' ' || c == '\t' || c == '\n' with
        | [] => []
        | s => words (s.length + 1) s

end Separation

/-- What `join` does with lines that have the same key. -/
structure Joint where
  separation : Separation
  keys : Nat × Nat
  empty : Octets
  /-- The fields that are shown, by file and number, or the key for file zero; none for all. -/
  items : List (Nat × Nat)
  widths? : Option (Nat × Nat)
  foldsCase : Bool
  ending : Char
  shows : Bool × Bool × Bool

namespace Joint

def key (j : Joint) (second : Bool) (r : Row) : Octets :=
  let s := (r.fields[if second then j.keys.2 else j.keys.1]?).getD []
  if j.foldsCase then s.map Char.toUpper else s

def line (j : Joint) (a b : Option Row) : Octets :=
  let field (r : Option Row) (n : Nat) : Octets :=
    match r.bind fun r => r.fields[n]? with
    | some [] | none => j.empty
    | some s => s
  let key := match a with
    | some _ => field a j.keys.1
    | none => field b j.keys.2
  let parts := match j.items with
    | [] =>
        let others (r : Option Row) (k : Nat) (width? : Option Nat) : List Octets :=
          let width := width?.getD ((r.map fun r => r.fields.length).getD 0)
          ((List.range width).filter (· != k)).map (field r)
        key :: others a j.keys.1 (j.widths?.map Prod.fst) ++
          others b j.keys.2 (j.widths?.map Prod.snd)
    | items => items.map fun (file, n) =>
        if file = 1 then field a n else if file = 2 then field b n else key
  joinWith [j.separation.printed] parts ++ [j.ending]

def checkRows (j : Joint) (w : Watch) (second : Bool) (name : Octets) (x y : Row) (s : Course) :
    Course :=
  s.check w second (compareTexts (j.key second x) (j.key second y) != .gt)
    ("join: ".toList ++ name ++ ':' :: Octets.ofNat y.number ++ ": is not sorted: ".toList ++ y.text)

def rest (j : Joint) (w : Watch) (second shown : Bool) (name : Octets) :
    List Row → Course → Course
  | [], s => s
  | [x], s => if shown then s.put (alone j second x) else s
  | x :: y :: more, s =>
      let s := if shown then s.put (alone j second x) else s
      j.rest w second shown name (y :: more) (j.checkRows w second name x y s)
where
  alone (j : Joint) (second : Bool) (x : Row) : Octets :=
    if second then j.line none (some x) else j.line (some x) none

/-- Goes through the lines of two files; fuel bounds their number. -/
def run (j : Joint) (w : Watch) (names : Octets × Octets) (fuel : Nat) (a b : List Row)
    (s : Course) : Course :=
  match fuel, a, b with
  | 0, _, _ => s
  | _, a, [] => j.rest w false j.shows.1 names.1 a s
  | _, [], b => j.rest w true j.shows.2.1 names.2 b s
  | fuel + 1, x :: a, y :: b =>
      let next (second : Bool) (r : Row) (more : List Row) (s : Course) : Course :=
        match more with
        | r' :: _ => j.checkRows w second (if second then names.2 else names.1) r r' s
        | [] => s
      match compareTexts (j.key false x) (j.key true y) with
      | .lt =>
          let s := if j.shows.1 then s.put (j.line (some x) none) else s
          j.run w names fuel a (y :: b) (next false x a s).alone
      | .gt =>
          let s := if j.shows.2.1 then s.put (j.line none (some y)) else s
          j.run w names fuel (x :: a) b (next true y b s).alone
      | .eq =>
          let k := j.key false x
          let runA := (x :: a).takeWhile fun r => j.key false r = k
          let runB := (y :: b).takeWhile fun r => j.key true r = k
          let restA := (x :: a).drop runA.length
          let restB := (y :: b).drop runB.length
          let s := next false (runA.getLastD x) restA s
          let s := next true (runB.getLastD y) restB s
          let s := if j.shows.2.2 then
              s.put (runA.flatMap fun r => runB.flatMap fun r' => j.line (some r) (some r'))
            else s
          j.run w names fuel restA restB s

end Joint

/-- What an operand of `join` may turn out to be when there are more than two. -/
inductive Standing where
  | file
  | key (second : Bool)
  | items
  deriving DecidableEq, Repr

structure Wish where
  keys : Option Nat × Option Nat := (none, none)
  bare : Nat × Nat := (0, 0)
  items : List (Nat × Nat) := []
  fitted : Bool := false
  empty? : Option Octets := none
  separation? : Option Separation := none
  alone : Bool × Bool := (false, false)
  paired : Bool := true
  names : List (Octets × Standing) := []
  before : Standing := .file

namespace Wish

def number (c : Context) (s : Octets) : Except Octets Nat :=
  match readNat? s with
  | some (n + 1) => .ok n
  | _ => .error ("invalid field number: ".toList ++ quoted c s)

def setKey (w : Wish) (second : Bool) (n : Nat) : Except Octets Wish :=
  match if second then w.keys.2 else w.keys.1 with
  | some m =>
      if m = n then .ok w
      else .error ("incompatible join fields ".toList ++ Octets.ofNat m ++ ", ".toList ++
        Octets.ofNat n)
  | none => .ok { w with keys := if second then (w.keys.1, some n) else (some n, w.keys.2) }

def item (c : Context) (s : Octets) : Except Octets (Nat × Nat) :=
  match s with
  | ['0'] => .ok (0, 0)
  | '1' :: '.' :: n => do return (1, ← number c n)
  | '2' :: '.' :: n => do return (2, ← number c n)
  | '0' :: _ | '1' :: _ | '2' :: _ => .error ("invalid field specifier: ".toList ++ quoted c s)
  | _ => .error ("invalid file number in field spec: ".toList ++ quoted c s)

def addItems (c : Context) (w : Wish) (s : Octets) : Except Octets Wish := do
  let parts := splitAt ',' (s.map fun d => if d == ' ' || d == '\t' then ',' else d)
  return { w with items := w.items ++ (← parts.mapM (item c)) }

/-- Takes an operand.  One too many makes an earlier one what it may be besides a file. -/
def addName (c : Context) (w : Wish) (name : Octets) : Except Octets Wish := do
  let here := (name, w.before)
  let before : Standing := if w.before = .items then .items else .file
  match w.names with
  | [later, earlier] =>
      let takenEarlier := earlier.2 != .file
      let taken := if takenEarlier then earlier else later
      let kept := if takenEarlier then later else earlier
      let w := { w with names := [here, kept], before }
      match taken.2 with
      | .file => throw ("extra operand ".toList ++ quotedName name ++ tryHelp "join")
      | .key second =>
          let bare := if second then (w.bare.1, w.bare.2 - 1) else (w.bare.1 - 1, w.bare.2)
          setKey { w with bare } second (← number c taken.1)
      | .items => addItems c w taken.1
  | names => return { w with names := here :: names, before }

def separationOf (c : Context) (s : Octets) : Except Octets Separation :=
  match s with
  | [] | ['\n'] => .ok .none
  | ['\\', '0'] => .ok (.character '\x00')
  | [d] => .ok (.character d)
  | s => .error ("multi-character tab ".toList ++ quoted c s)

def add (c : Context) (w : Wish) (letter : Char) (s : Octets) : Except Octets Wish := do
  let plain := { w with before := .file }
  match letter with
  | 'a' | 'v' =>
      let w := if letter == 'v' then { plain with paired := false } else plain
      match readNat? s with
      | some 1 => return { w with alone := (true, w.alone.2) }
      | some 2 => return { w with alone := (w.alone.1, true) }
      | _ => throw ("invalid field number: ".toList ++ quoted c s)
  | 'e' =>
      if w.empty?.any (· != s) then throw "conflicting empty-field replacement strings".toList
      return { plain with empty? := some s }
  | '1' => plain.setKey false (← number c s)
  | '2' => plain.setKey true (← number c s)
  | 'j' =>
      let isBare := (s = ['1'] || s = ['2']) && c.args.contains ('-' :: 'j' :: s)
      if isBare then
        let second := s = ['2']
        return { w with
          bare := if second then (w.bare.1, w.bare.2 + 1) else (w.bare.1 + 1, w.bare.2)
          before := .key second }
      else
        let n ← number c s
        (← plain.setKey false n).setKey true n
  | 'o' =>
      if s = "auto".toList then return { plain with fitted := true }
      return { (← addItems c w s) with before := .items }
  | 't' =>
      let t ← separationOf c s
      if w.separation?.any (· != t) then throw "incompatible tabs".toList
      return { plain with separation? := some t }
  | _ => if letter == Options.operandLetter then addName c w s else return plain

def ofOptions (c : Context) (o : Options) : Except Octets (Wish × Octets × Octets) := do
  let w ← o.given.foldlM (fun (w : Wish) (letter, s) => add c w letter s) {}
  let w ← o.operands.foldlM (addName c) { w with before := .file }
  match w.names with
  | [(b, _), (a, _)] =>
      -- A number that is missing behind `-j1` or `-j2` was that of both keys.
      let both (w : Wish) (count n : Nat) : Except Octets Wish :=
        if count = 0 then .ok w else do (← w.setKey false n).setKey true n
      return (← both (← both w w.bare.1 0) w.bare.2 1, a, b)
  | [] => throw ("missing operand".toList ++ tryHelp "join")
  | _ => throw ("missing operand after ".toList ++ quoted c (c.args.getLast?.getD []) ++
      tryHelp "join")

end Wish

def join (c : Context) : Answer :=
  let long : List (String × Char × Arity) :=
    [("ignore-case", 'i', .flag), ("zero-terminated", 'z', .flag), ("header", 'h', .flag),
      ("check-order", 'k', .flag), ("nocheck-order", 'n', .flag)] ++ commonOptions
  withReadOptions c "join" 1 (Options.readOrdered "1:2:a:e:ij:o:t:v:z" long c.args) fun o =>
    match Wish.ofOptions c o with
    | .error message => .failure c 1 ("join: ".toList ++ message)
    | .ok (w, nameA, nameB) =>
      let ending := if o.has 'z' then '\x00' else '\n'
      withTwo "join" c ending [nameA, nameB] fun nameA nameB a b =>
        let separation := w.separation?.getD .blanks
        let a := rowsOf separation.fields a
        let b := rowsOf separation.fields b
        let width (rows : List Row) : Nat := ((rows.head?).map fun r => r.fields.length).getD 0
        let j : Joint :=
          { separation
            keys := (w.keys.1.getD 0, w.keys.2.getD 0)
            empty := w.empty?.getD []
            items := w.items
            widths? := if w.fitted then some (width a, width b) else none
            foldsCase := o.has 'i'
            ending
            shows := (w.alone.1, w.alone.2, w.paired) }
        let headed := o.has 'h' && !(a.isEmpty && b.isEmpty)
        let s := if headed then Course.start.put (j.line a.head? b.head?) else .start
        let a := if headed then a.drop 1 else a
        let b := if headed then b.drop 1 else b
        let size := a.length + b.length + 1
        (j.run (watchOf o) (nameA, nameB) size a b s).result c "join" []

end Merge

end Utility

end Conformance
