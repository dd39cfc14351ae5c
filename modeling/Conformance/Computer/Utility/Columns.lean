import Conformance.Computer.Utility.Translate

/-!
# Columns

The programs `fold`, `expand`, `unexpand` and `paste`, which care for the columns that text stands in.
-/

namespace Conformance

namespace Utility

namespace Columns

open Translate

def columnAfter (bytes : Bool) (column : Nat) (ch : Char) : Nat :=
  if bytes then column + 1
  else match ch with
    | '\x08' => column - 1
    | '\r' => 0
    | '\t' => column + 8 - column % 8
    | _ => column + 1

def foldLine (bytes atBlanks : Bool) (width : Nat) (fuel : Nat) (line : Octets) : List Octets :=
  match fuel with
  | 0 => [line]
  | fuel + 1 =>
    let fitting := (line.foldl (fun ((n, column, full) : Nat × Nat × Bool) ch =>
      let next := columnAfter bytes column ch
      if full || next > width then (n, column, true) else (n + 1, next, false)) (0, 0, false)).1
    if fitting ≥ line.length then [line]
    else
      let taken := max 1 fitting
      let first := line.take taken
      let upToBlank := (first.reverse.dropWhile fun ch => ch != ' ' && ch != '\t').length
      let cut := if atBlanks && upToBlank > 0 then upToBlank else taken
      if cut ≥ line.length then [line]
      else line.take cut :: foldLine bytes atBlanks width fuel (line.drop cut)

def fold (c : Context) : Answer :=
  let long : List (String × Char × Arity) :=
    [("bytes", 'b', .flag), ("spaces", 's', .flag), ("width", 'w', .required)]
  let args := c.args.flatMap fun a =>
    match a with
    | '-' :: d :: digits =>
        if (d :: digits).all Char.isDigit then ["-w".toList, d :: digits] else [a]
    | a => [a]
  withOptions { c with args } "fold" 1 "bsw:" long fun o =>
    match (o.values 'w').find? fun v => !(readNat? v).any (· > 0) with
    | some v =>
        .failure c 1 ("fold: invalid number of columns: ".toList ++ quoted c v ++
          (if (readNat? v).isSome then ": Numerical result out of range".toList else []))
    | none =>
        let width := ((o.value? 'w').bind readNat?).getD 80
        filterFiles "fold" c o.operands fun s =>
          let lines := splitAt '\n' s
          joinWith ['\n'] (lines.flatMap fun l => foldLine (o.has 'b') (o.has 's') width
            (l.length + 1) l)

/-- The places of the tab stops: those that are listed, then every so many columns. -/
structure Stops where
  listed : List Nat
  every : Nat
  origin : Nat

def Stops.next (t : Stops) (column : Nat) : Option Nat :=
  match t.listed.find? (· > column) with
  | some stop => some stop
  | none => if t.every = 0 then none else some (column + t.every - (column - t.origin) % t.every)

/-- The stops that options list.  A slash or a plus in front of the last number says that it goes on
from there, in multiples of the number or from the last stop. -/
def stopsOf (c : Context) (o : Options) : Except Octets Stops := do
  let words := (o.values 't').flatMap fun v =>
    ((v.map fun ch => if ch == ' ' || ch == '\t' then ',' else ch) |> splitAt ',').filter (· != [])
  let lasting := words.filter fun w => w.head? == some '/' || w.head? == some '+'
  let numbers ← (words.filter fun w => !lasting.contains w).mapM fun w =>
    match readNat? w with
    | some n => pure n
    | none => throw ("tab size contains invalid character(s): ".toList ++ quoted c
        (w.dropWhile Char.isDigit))
  if numbers.contains 0 then throw "tab size cannot be 0".toList
  if !(numbers.zip (numbers.drop 1)).all fun (a, b) => decide (a < b) then
    throw "tab sizes must be ascending".toList
  let every := (lasting.getLast?.bind fun w => readNat? (w.drop 1)).getD 0
  let relative := lasting.getLast?.any fun w => w.head? == some '+'
  match numbers with
  | [] => return ⟨[], if every = 0 then 8 else every, 0⟩
  | [n] => return if every = 0 then ⟨[], n, 0⟩ else ⟨[n], every, if relative then n else 0⟩
  | listed => return ⟨listed, every, if relative then listed.getLast?.getD 0 else 0⟩

def withStops (c : Context) (program : String) (o : Options) (k : Stops → Answer) : Answer :=
  match stopsOf c o with
  | .ok stops => k stops
  | .error message => .failure c 1 (program.toList ++ ": ".toList ++ message)

def expandTabs (t : Stops) (initial : Bool) (s : Octets) : Octets :=
  (s.foldl (fun ((out, column, atStart) : Octets × Nat × Bool) ch =>
    if ch == '\n' then ('\n' :: out, 0, true)
    else if ch == '\t' && (atStart || !initial) then
      let next := (t.next column).getD (column + 1)
      (List.replicate (next - column) ' ' ++ out, next, atStart)
    else if ch == '\x08' then (ch :: out, column - 1, false)
    else (ch :: out, column + 1, atStart && ch == ' ')) ([], 0, true)).1.reverse

def expandProgram (c : Context) : Answer :=
  let long : List (String × Char × Arity) := [("initial", 'i', .flag), ("tabs", 't', .required)]
  withOptions c "expand" 1 "it:0::1::2::3::4::5::6::7::8::9::" long fun o =>
    let old := o.given.filterMap fun (letter, v) =>
      if letter.isDigit then some ('t', letter :: v) else none
    withStops c "expand" { o with given := old ++ o.given } fun stops =>
      filterFiles "expand" c o.operands (expandTabs stops (o.has 'i'))

/-- Where a line is while tabs are put in the place of its blanks. -/
structure Squeezing where
  column : Nat
  pending : Octets
  beforeStop : Bool
  afterBlank : Bool

/-- The blanks that are written as what they are; the first of several becomes a tab if it stands
right before a tab stop. -/
def Squeezing.left (q : Squeezing) : Octets :=
  match q.pending with
  | _ :: second :: rest => if q.beforeStop then '\t' :: second :: rest else q.pending
  | pending => pending

/-- Puts tabs in the place of blanks that lead up to a tab stop, `everywhere` or only at the
beginning. -/
def unexpandLine (t : Stops) (everywhere : Bool) (q : Squeezing) : Octets → Octets
  | [] => q.left
  | ch :: rest =>
      if ch == ' ' || ch == '\t' then
        match t.next q.column with
        | none => q.left ++ ch :: rest
        | some stop =>
          let column := if ch == '\t' then stop else q.column + 1
          if ch == ' ' && !(q.afterBlank && column = stop) then
            unexpandLine t everywhere
              ⟨column, q.pending ++ [' '], q.beforeStop || column = stop, true⟩ rest
          else
            -- One blank right before a tab stop stays, as a tab, besides the new tab.
            let kept := if q.beforeStop then ['\t'] else []
            kept ++ '\t' :: unexpandLine t everywhere ⟨column, [], false, true⟩ rest
      else if everywhere then
        let column := if ch == '\x08' then q.column - 1 else q.column + 1
        q.left ++ ch :: unexpandLine t everywhere ⟨column, [], false, false⟩ rest
      else q.left ++ ch :: rest

def unexpand (c : Context) : Answer :=
  let long : List (String × Char × Arity) :=
    [("all", 'a', .flag), ("first-only", 'f', .flag), ("tabs", 't', .required)]
  withOptions c "unexpand" 1 "aft:" long fun o =>
    let everywhere := (o.has 'a' || o.has 't') && !o.has 'f'
    withStops c "unexpand" o fun stops =>
      filterFiles "unexpand" c o.operands fun s =>
        joinWith ['\n'] ((splitAt '\n' s).map fun l =>
          unexpandLine stops everywhere ⟨0, [], false, true⟩ l)

/-! ## Lines side by side -/

def delimitersOf (s : Octets) : List Octets :=
  match s with
  | [] => [[]]
  | s => go s
where
  go : Octets → List Octets
    | [] => []
    | '\\' :: '0' :: rest => [] :: go rest
    | '\\' :: ch :: rest => [simpleEscape ch] :: go rest
    | ch :: rest => [ch] :: go rest

def endsInBackslash : Octets → Bool
  | [] => false
  | ['\\'] => true
  | '\\' :: _ :: rest => endsInBackslash rest
  | _ :: rest => endsInBackslash rest

def withDelimiters (delimiters : List Octets) (parts : List Octets) : Octets :=
  (parts.zipIdx.flatMap fun (part, n) =>
    (if n = 0 then [] else delimiters.getD ((n - 1) % max 1 delimiters.length) []) ++ part)

def paste (c : Context) : Answer :=
  let long : List (String × Char × Arity) :=
    [("delimiters", 'd', .required), ("serial", 's', .flag), ("zero-terminated", 'z', .flag)]
  withOptions c "paste" 1 "d:sz" long fun o =>
    let delimiters := delimitersOf ((o.value? 'd').getD ['\t'])
    let ending := if o.has 'z' then '\x00' else '\n'
    let files := if o.operands.isEmpty then [['-']] else o.operands
    let bad? := (o.values 'd').getLast?.filter endsInBackslash
    match bad? with
    | some d => .failure c 1
        ("paste: delimiter list ends with an unescaped backslash: ".toList ++ d)
    | none =>
    withContents c files fun contents =>
      let errors := contents.filterMap fun (file, content) =>
        match content with
        | .ok _ => none
        | .error e => some (unreadable "paste" file e)
      -- Files that are the input take its lines in turn.
      let inputs := (files.filter isInput).length
      let inputLines := Excerpt.linesOf ending
        (((contents.find? fun (f, _) => isInput f).bind fun (_, content) => content.toOption).getD [])
      let columns := (contents.foldl (fun ((columns, k) : List (List Octets) × Nat) (file, content) =>
        match content with
        | .error _ => (columns, k)
        | .ok s =>
            if isInput file && !o.has 's' then
              let own := (inputLines.zipIdx.filter fun (_, n) => n % inputs = k).map Prod.fst
              (own :: columns, k + 1)
            else (Excerpt.linesOf ending s :: columns, k)) ([], 0)).1.reverse
      if o.has 's' then
        .ends ⟨contents.map fun (file, content) =>
            match content with
            | .ok s =>
                .out (withDelimiters delimiters (Excerpt.linesOf ending s) ++ [ending])
            | .error e => unreadable "paste" file e,
          if errors.isEmpty then 0 else 1, c.tree⟩
      else if !errors.isEmpty then .ends ⟨errors.take 1, 1, c.tree⟩
      else
        let count := (columns.map List.length).foldl max 0
        let rows := (List.range count).map fun n => columns.map fun l => l.getD n []
        .ok c (rows.flatMap fun row => withDelimiters delimiters row ++ [ending])

end Columns

end Utility

end Conformance
