import Conformance.Computer.Text.Regex
import Conformance.Computer.Utility.Difference.Form
import Conformance.Computer.Utility.Difference.Layout
import Conformance.Computer.Utility.Excerpt
import Conformance.Computer.Utility.Format
import Conformance.Computer.Utility.Seek.Condition

/-!
# Differences between files

The program `diff`, which compares files line by line, and directories name by name.
-/

namespace Conformance

namespace Utility

namespace Difference

inductive Style where
  | normal
  | unified
  | context
  | editor
  | forward
  | counted
  | columns
  | merged
  deriving DecidableEq, Repr

def options : List (String × Char × Arity) :=
  ([("normal", '\x03', .flag), ("color", '\x04', .optional), ("strip-trailing-cr", '\x05', .flag),
    ("left-column", '\x06', .flag), ("suppress-common-lines", '\x07', .flag),
    ("tabsize", '\x08', .required), ("horizon-lines", '\x0e', .required),
    ("no-dereference", '\x0f', .flag), ("suppress-blank-empty", '\x10', .flag),
    ("speed-large-files", 'H', .flag), ("starting-file", 'S', .required),
    ("unidirectional-new-file", 'P', .flag), ("palette", '\x11', .required),
    ("brief", 'q', .flag), ("report-identical-files", 's', .flag),
    ("unified", 'U', .optional), ("context", 'C', .optional), ("recursive", 'r', .flag),
    ("new-file", 'N', .flag), ("ignore-case", 'i', .flag), ("ignore-all-space", 'w', .flag),
    ("ignore-space-change", 'b', .flag), ("ignore-blank-lines", 'B', .flag),
    ("ignore-tab-expansion", 'E', .flag), ("ignore-trailing-space", 'Z', .flag),
    ("ignore-matching-lines", 'I', .required), ("text", 'a', .flag), ("label", 'L', .required),
    ("ed", 'e', .flag), ("forward-ed", 'f', .flag), ("rcs", 'n', .flag), ("ifdef", 'D', .required),
    ("side-by-side", 'y', .flag), ("width", 'W', .required), ("exclude", 'x', .required),
    ("exclude-from", 'X', .required), ("minimal", 'd', .flag), ("expand-tabs", 't', .flag),
    ("initial-tab", 'T', .flag), ("show-c-function", 'p', .flag),
    ("show-function-line", 'F', .required), ("paginate", 'l', .flag),
    ("line-format", '\x12', .required), ("unchanged-line-format", '\x13', .required),
    ("old-line-format", '\x14', .required), ("new-line-format", '\x15', .required),
    ("unchanged-group-format", '\x16', .required), ("old-group-format", '\x17', .required),
    ("new-group-format", '\x18', .required), ("changed-group-format", '\x19', .required)] :
      List (String × Char × Arity)) ++ commonOptions

def complaint (c : Context) (message : Octets) : Answer :=
  .failure c 2 ("diff: ".toList ++ message ++
    "\ndiff: Try 'diff --help' for more information.".toList)

def styleOf? : Char → Option Style
  | '\x03' => some .normal
  | 'u' | 'U' => some .unified
  | 'c' | 'C' => some .context
  | 'e' => some .editor
  | 'f' => some .forward
  | 'n' => some .counted
  | 'y' => some .columns
  | 'D' => some .merged
  | letter => if '\x12' ≤ letter && letter ≤ '\x19' then some .merged else none

/-- What the options say about how files are compared. -/
structure Plan where
  style : Style
  context : Nat
  width : Nat
  tabSize : Nat
  ignored : List Regex
  titles : Option (Octets → Bool)
  forms : Forms

def isMatch (r : Regex) (line : Octets) : Bool := (Regex.find? ⟨line.toArray, .standard⟩ r 0).isSome

/-- A form that an option gives: whether it is one for lines, of what kind, and the form. -/
structure FormGiven where
  isLine : Bool
  kind : GroupKind
  form : Octets

def formsGiven (letter : Char) (v : Octets) : List FormGiven :=
  match letter with
  | 'D' => [.same, .old, .new, .changed].map fun k => ⟨false, k, conditionForm v k⟩
  | '\x12' => [.same, .old, .new].map fun k => ⟨true, k, v⟩
  | '\x13' => [⟨true, .same, v⟩]
  | '\x14' => [⟨true, .old, v⟩]
  | '\x15' => [⟨true, .new, v⟩]
  | '\x16' => [⟨false, .same, v⟩]
  | '\x17' => [⟨false, .old, v⟩]
  | '\x18' => [⟨false, .new, v⟩]
  | '\x19' => [⟨false, .changed, v⟩]
  | _ => []

/-- The forms that the options give, unless two of them give different ones for the same thing. -/
def formsOf (o : Options) : Except Octets Forms := do
  let all ← o.given.foldlM (fun (all : List FormGiven) ((letter, v) : Char × Octets) => do
    let more := formsGiven letter v
    match more.find? fun x => all.any fun y =>
        x.isLine == y.isLine && x.kind = y.kind && x.form != y.form with
    | some clash => do
      let name := match options.find? fun (_, l, _) => l == letter with
        | some (name, _) => "--" ++ name
        | none => ""
      let name := if letter == 'D' then "-D" else name
      throw ("conflicting ".toList ++ name.toList ++ " option value '".toList ++ clash.form ++
        ['\''])
    | none => pure (all ++ more)) []
  let given? (isLine : Bool) (k : GroupKind) : Option Octets :=
    (all.find? fun x => x.isLine == isLine && x.kind = k).map FormGiven.form
  return Forms.ofGiven (given? true) (given? false)

def planOf (o : Options) : Except Octets Plan := do
  let named := o.given.filterMap fun (letter, _) => styleOf? letter
  let style := named.headD .normal
  if named.any (· != style) then throw "conflicting output style options".toList
  let forms ← formsOf o
  let number (what : String) (v : Octets) : Except Octets Nat :=
    match readNat? v with
    | some n => pure n
    | none => throw ((what ++ " '").toList ++ v ++ ['\''])
  let contexts ← o.given.filterMapM fun (letter, v) =>
    if letter == 'u' || letter == 'c' || ((letter == 'U' || letter == 'C') && v.isEmpty) then
      pure (some 3)
    else if letter == 'U' || letter == 'C' then
      (number "invalid context length" v).map some
    else pure none
  let context := match contexts with
    | [] => if style = .unified || style = .context then 3 else 0
    | l => l.foldl max 0
  let width ← match o.value? 'W' with
    | some v => do
        let n ← number "invalid width" v
        if n = 0 then throw ("invalid width '".toList ++ v ++ ['\''])
        pure n
    | none => pure 130
  let tabSize ← match o.value? '\x08' with
    | some v => number "invalid tabsize" v
    | none => pure 8
  let ignored ← (o.values 'I').mapM fun v =>
    match Regex.parse .basic v with
    | some r => pure r
    | none => throw (v ++ ": ".toList ++ (Regex.complaint .basic v).toList)
  let startsName (ch : Char) : Bool := ch.isAlpha || ch == '$' || ch == '_'
  let titles ← match o.value? 'F' with
    | some v =>
        match Regex.parse .basic v with
        | some r =>
            pure (some fun line => isMatch r line || (o.has 'p' && line.head?.any startsName))
        | none => throw (v ++ ": ".toList ++ (Regex.complaint .basic v).toList)
    | none =>
        pure (if o.has 'p' then some fun line => line.head?.any startsName else none)
  if (o.values 'L').length > 2 then throw "too many file label options".toList
  let style := if o.has 'p' && named.isEmpty then Style.context else style
  let context := if o.has 'p' && named.isEmpty && contexts.isEmpty then 3 else context
  return ⟨style, context, width, if tabSize = 0 then 8 else tabSize, ignored, titles,
    forms⟩

def untabbed (tabSize : Nat) (s : Octets) : Octets :=
  (s.foldl (fun ((out, column) : Octets × Nat) ch =>
    if ch == '\t' then
      let n := tabSize - column % tabSize
      (List.replicate n ' ' ++ out, column + n)
    else (ch :: out, column + 1)) ([], 0)).1.reverse

def keyOf (o : Options) (p : Plan) (l : Line) : Octets :=
  let trimmed (s : Octets) : Octets := (s.reverse.dropWhile isSpace).reverse
  let s := if o.has 'i' then l.text.map Char.toLower else l.text
  let s :=
    if o.has 'w' then s.filter fun ch => !isSpace ch
    else if o.has 'b' then
      joinWith [' '] ((if s.head?.any isSpace then [[]] else []) ++ wordsOf s)
    else
      let s := if o.has 'E' then untabbed p.tabSize s else s
      if o.has 'Z' then trimmed s else s
  let lenient := o.hasAny "wbZ" || p.style = .editor || p.style = .forward
  if l.ended || lenient then s else s ++ ['\n']

def titleOf (c : Context) (o : Options) (style : Style) (file : Octets) (n : Nat) : Octets :=
  match (o.values 'L')[n]? with
  | some label => label
  | none =>
      let time := match c.tree.lookup c.directory (pathOf file) true with
        | .ok (loc, _) => ((c.tree.stamp? loc).map Stamp.time).getD c.now
        | .error _ => c.now
      let form := if style = .context then "%a %b %e %T %Y" else "%Y-%m-%d %H:%M:%S.%N %z"
      file ++ '\t' :: Format.dateText (time / 1000000 : Nat) (time % 1000000 * 1000) 200 form.toList

def compareFiles (c : Context) (o : Options) (p : Plan) (header f g s t : Octets) :
    List Print × Nat :=
  let read (s : Octets) : List Line :=
    let lines := linesOf s
    if o.has '\x05' then
      lines.map fun l =>
        if l.ended && l.text.getLast? == some '\r' then { l with text := l.text.dropLast } else l
    else lines
  let old := read s
  let new := read t
  let lenient := p.style = .editor || p.style = .forward
  let raw (l : Line) : Octets := if l.ended || lenient then l.text else l.text ++ ['\n']
  let endsOpen (l : List Line) : Bool := (l.getLast?).any fun x => !x.ended
  let all := changes (o.has 'd') p.context (lenient || endsOpen old == endsOpen new)
    (old.map raw) (new.map raw) (old.map (keyOf o p)) (new.map (keyOf o p))
  let a := old.toArray
  let b := new.toArray
  let isTrivial (l : Line) : Bool :=
    (o.has 'B' && l.text.isEmpty) || p.ignored.any fun r => isMatch r l.text
  let trivial (x : Change) : Bool :=
    (part a x.oldFirst x.oldCount ++ part b x.newFirst x.newCount).all isTrivial
  let telling := all.filter fun x => !trivial x
  let shown (l : Line) : Line := if o.has 't' then { l with text := untabbed p.tabSize l.text } else l
  let name (n : Nat) (file : Octets) : Octets := (o.values 'L').getD n file
  let isBinary := (s ++ t).contains '\x00' && !o.has 'a'
  let incomplete : List Print :=
    if lenient && !o.has 'q' then
      [(f, old), (g, new)].filterMap fun (file, lines) =>
        if endsOpen lines then
          some (.err ("diff: ".toList ++ file ++ ": No newline at end of file\n\n".toList))
        else none
    else []
  let status := if !incomplete.isEmpty then 2 else if telling.isEmpty then 0 else 1
  let identical : List Print :=
    if o.has 's' then
      [.out ("Files ".toList ++ name 0 f ++ " and ".toList ++ name 1 g ++
        " are identical\n".toList)]
    else []
  if isBinary && !o.has 'q' then
    if s = t then (identical, 0)
    else ([.out ("Binary files ".toList ++ name 0 f ++ " and ".toList ++ name 1 g ++
      " differ\n".toList)], 2)
  else if telling.isEmpty && p.style != .columns && p.style != .merged then
    (incomplete ++ (if status = 0 then identical else []), status)
  else if o.has 'q' then
    if telling.isEmpty then (identical, 0)
    else ([.out ("Files ".toList ++ name 0 f ++ " and ".toList ++ name 1 g ++
      " differ\n".toList)], 1)
  else
    let a := a.map shown
    let b := b.map shown
    let text : Octets := match p.style with
      | .unified =>
          "--- ".toList ++ titleOf c o p.style f 0 ++ "\n+++ ".toList ++
            titleOf c o p.style g 1 ++ ['\n'] ++ unifiedText p.context p.titles trivial a b all
      | .context =>
          "*** ".toList ++ titleOf c o p.style f 0 ++ "\n--- ".toList ++
            titleOf c o p.style g 1 ++ ['\n'] ++ contextText p.context p.titles trivial a b all
      | .normal => normalText a b telling
      | .editor => editorText b telling
      | .forward => forwardText b telling
      | .counted => countedText b telling
      | .merged => formedText p.forms a b telling
      | .columns =>
          columnsText (.ofWidth p.width p.tabSize (o.has 't') (o.has '\x07') (o.has '\x06'))
            old.toArray new.toArray telling
    (.out (header ++ text) :: incomplete ++ (if telling.isEmpty then identical else []), status)

/-- Compares what stands at two places; directories name by name.  Fuel bounds how deep they
nest. -/
def compareAt (c : Context) (o : Options) (p : Plan) (header : Octets) (fuel : Nat) (isTop : Bool)
    (f g : Octets) : List Print × Nat :=
  let entry (file : Octets) : Except IoError Entry :=
    if isInput file then .ok (.file (.bytes (Octets.toBytes c.input)))
    else (c.tree.lookup c.directory (pathOf file) true).map Prod.snd
  let isDirectory (file : Octets) : Bool := (entry file).toOption.any Entry.isDirectory
  let last (file : Octets) : Octets := (file.reverse.takeWhile (· != '/')).reverse
  let inside (dir name : Octets) : Octets :=
    (if dir.getLast? == some '/' then dir else dir ++ ['/']) ++ name
  match fuel with
  | 0 => ([], 0)
  | fuel + 1 =>
    if isDirectory f && isDirectory g then
      if !isTop && !o.has 'r' then
        ([.out ("Common subdirectories: ".toList ++ f ++ " and ".toList ++ g ++ ['\n'])], 0)
      else
        let isOut (name : String) : Bool :=
          (o.values 'x').any fun v => Seek.accepts ⟨c.isWide, false⟩ v (Octets.ofString name)
        let names (file : Octets) : List String :=
          (((c.tree.list c.directory (pathOf file)).toOption).getD []).filter fun n => !isOut n
        let all := (names f ++ names g).eraseDups.mergeSort fun x y => !decide (y < x)
        all.foldl (fun ((prints, status) : List Print × Nat) name =>
          let below (file : Octets) : Octets := inside file (Octets.ofString name)
          let only (file : Octets) : List Print × Nat :=
            ([.out ("Only in ".toList ++ file ++ ": ".toList ++ Octets.ofString name ++ ['\n'])], 1)
          let (more, s) :=
            if !(names g).contains name && !o.has 'N' then only f
            else if !(names f).contains name && !o.hasAny "NP" then only g
            else compareAt c o p header fuel false (below f) (below g)
          (prints ++ more, max status s)) ([], 0)
    else if isTop && isDirectory f then
      if isInput g then ([.err "diff: cannot compare '-' to a directory\n".toList], 2)
      else compareAt c o p header fuel false (inside f (last g)) g
    else if isTop && isDirectory g then
      if isInput f then ([.err "diff: cannot compare '-' to a directory\n".toList], 2)
      else compareAt c o p header fuel false f (inside g (last f))
    else if (isDirectory f || isDirectory g) && (entry f).isOk && (entry g).isOk then
      let kind (file : Octets) : Octets :=
        if isDirectory file then "directory".toList
        else if ((entry file).toOption.any fun e => e matches .file (.bytes [])) then
          "regular empty file".toList
        else "regular file".toList
      ([.out ("File ".toList ++ f ++ " is a ".toList ++ kind f ++ " while file ".toList ++ g ++
        " is a ".toList ++ kind g ++ ['\n'])], 1)
    else
      let read (file : Octets) : Except IoError Octets :=
        if o.hasAny "NP" && !(entry file).isOk && (entry f).isOk != (entry g).isOk then .ok []
        else contentOf c file
      match read f, read g with
      | .ok s, .ok t =>
          let header := if isTop || header.isEmpty then []
            else header ++ ' ' :: f ++ ' ' :: g ++ ['\n']
          compareFiles c o p header f g s t
      | x, y =>
          ([(f, x), (g, y)].filterMap fun (file, r) =>
            match r with
            | .ok _ => none
            | .error e =>
                some (.err ("diff: ".toList ++ file ++ ": ".toList ++ errorText e ++ ['\n'])), 2)

/-- Arguments without the operands among them, which come last if there are several like them. -/
def withoutOperands (args operands : List Octets) : List Octets :=
  (operands.foldl (fun (args : List Octets) a => args.erase a) args.reverse).reverse

def diff (c : Context) : Answer :=
  let short := "0123456789abBcC:dD:eEfF:hHiI:lL:nNpPqrsS:tTuU:vwW:x:X:yZ"
  match Options.read short options c.args with
  | .error message => complaint c message
  | .ok o =>
    if o.has versionLetter || o.has 'v' then .ok c "diff (GNU diffutils) 3.8\n".toList
    else if o.has helpLetter then .ok c "Usage: diff [OPTION]... FILES\n".toList
    else match planOf o, o.operands with
      | .error message, _ => complaint c message
      | .ok p, [f, g] =>
          match need? c (o.operands.filter fun file => isInput file || isPipe c file) with
          | some answer => answer
          | none =>
              let words := withoutOperands c.args o.operands
              let header := joinWith [' '] ("diff".toList :: words)
              let isNested := c.tree.isDirectory c.directory (pathOf f) &&
                c.tree.isDirectory c.directory (pathOf g)
              let (prints, status) := compareAt c o p (if isNested then header else []) 64 true f g
              .ends ⟨prints, status, c.tree⟩
      | .ok _, [] => complaint c "missing operand after 'diff'".toList
      | .ok _, [f] => complaint c ("missing operand after '".toList ++ f ++ ['\''])
      | .ok _, _ :: _ :: extra :: _ =>
          complaint c ("extra operand '".toList ++ extra ++ ['\''])

end Difference

end Utility

end Conformance
