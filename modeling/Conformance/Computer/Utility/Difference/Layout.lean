import Conformance.Computer.Utility.Basic
import Conformance.Computer.Utility.Difference.Alignment

/-!
# Layouts of differences

The forms in which changes between two files are written: with the lines of each change, with their
surroundings, as orders to an editor, or in two columns.
-/

namespace Conformance

namespace Utility

namespace Difference

/-- A line with the fact that it is ended. -/
structure Line where
  text : Octets
  ended : Bool
  deriving DecidableEq, Repr

def linesOf (s : Octets) : List Line :=
  let parts := splitAt '\n' s
  let whole := parts.dropLast.map fun text => ⟨text, true⟩
  match parts.getLast? with
  | some (ch :: rest) => whole ++ [⟨ch :: rest, false⟩]
  | _ => whole

def noEnd : Octets := "\\ No newline at end of file\n".toList

/-- A line behind a mark; it is told if its end is missing. -/
def marked (mark : Octets) (l : Line) : Octets :=
  mark ++ l.text ++ ['\n'] ++ (if l.ended then [] else noEnd)

def plain (l : Line) : Octets := l.text ++ ['\n']

def rangeText (between : Char) (first count : Nat) : Octets :=
  if count = 0 then Octets.ofNat first
  else if count = 1 then Octets.ofNat (first + 1)
  else Octets.ofNat (first + 1) ++ between :: Octets.ofNat (first + count)

def part (l : Array Line) (first count : Nat) : List Line := (l.extract first (first + count)).toList

def Change.letter (x : Change) : Char :=
  if x.oldCount = 0 then 'a' else if x.newCount = 0 then 'd' else 'c'

def normalText (a b : Array Line) (all : List Change) : Octets :=
  all.flatMap fun x =>
    rangeText ',' x.oldFirst x.oldCount ++ x.letter :: rangeText ',' x.newFirst x.newCount ++
      ['\n'] ++ (part a x.oldFirst x.oldCount).flatMap (marked ['<', ' ']) ++
      (if x.letter == 'c' then "---\n".toList else []) ++
      (part b x.newFirst x.newCount).flatMap (marked ['>', ' '])

/-! ## With surroundings -/

/-- Changes so close to each other that they share their surroundings; to one that does not count,
others have to be closer.  Groups in which none counts are left out. -/
def grouped (context : Nat) (trivial : Change → Bool) (all : List Change) : List (List Change) :=
  ((all.foldl (fun (groups : List (List Change)) x =>
    match groups with
    | (last :: group) :: others =>
        let distance := if trivial x || trivial last then context else 2 * context + 1
        if x.oldFirst < last.oldFirst + last.oldCount + distance then
          (x :: last :: group) :: others
        else [x] :: groups
    | _ => [[x]]) []).reverse.map List.reverse).filter fun group => group.any fun x => !trivial x

def unifiedRange (first count : Nat) : Octets :=
  if count = 1 then Octets.ofNat (first + 1)
  else Octets.ofNat (if count = 0 then first else first + 1) ++ ',' :: Octets.ofNat count

/-- The last line before a place that a function accepts, as it is shown at the front of a group of
changes. -/
def heading (lead : Octets) (accepts? : Option (Octets → Bool)) (a : Array Line) (place : Nat) :
    Octets :=
  match accepts? with
  | none => []
  | some accepts =>
      match (part a 0 place).reverse.find? fun l => accepts l.text with
      | none => []
      | some l =>
          let text := (l.text.dropWhile isSpace).take 40
          lead ++ (text.reverse.dropWhile isSpace).reverse

def unifiedText (context : Nat) (titled : Option (Octets → Bool)) (trivial : Change → Bool)
    (a b : Array Line) (all : List Change) : Octets :=
  (grouped context trivial all).flatMap fun group =>
    match group.head?, group.getLast? with
    | some head, some last =>
        let oldFirst := head.oldFirst - context
        let newFirst := head.newFirst - (head.oldFirst - oldFirst)
        let oldLast := min a.size (last.oldFirst + last.oldCount + context)
        let newLast := last.newFirst + last.newCount + (oldLast - (last.oldFirst + last.oldCount))
        let (body, place) := group.foldl (fun ((body, place) : Octets × Nat) x =>
          (body ++ (part a place (x.oldFirst - place)).flatMap (marked [' ']) ++
            (part a x.oldFirst x.oldCount).flatMap (marked ['-']) ++
            (part b x.newFirst x.newCount).flatMap (marked ['+']),
            x.oldFirst + x.oldCount)) ([], oldFirst)
        "@@ -".toList ++ unifiedRange oldFirst (oldLast - oldFirst) ++ " +".toList ++
          unifiedRange newFirst (newLast - newFirst) ++ " @@".toList ++
          heading [' '] titled a oldFirst ++ ['\n'] ++ body ++
          (part a place (oldLast - place)).flatMap (marked [' '])
    | _, _ => []

def contextSide (l : Array Line) (first last : Nat) (lone : Char)
    (pieces : List (Nat × Nat × Bool)) : Octets :=
  if pieces.all fun (_, count, _) => count = 0 then []
  else
    let (body, place) := pieces.foldl (fun ((body, place) : Octets × Nat) (start, count, both) =>
      (body ++ (part l place (start - place)).flatMap (marked [' ', ' ']) ++
        (part l start count).flatMap (marked [if both then '!' else lone, ' ']), start + count))
      ([], first)
    body ++ (part l place (last - place)).flatMap (marked [' ', ' '])

def contextText (context : Nat) (titled : Option (Octets → Bool)) (trivial : Change → Bool)
    (a b : Array Line) (all : List Change) : Octets :=
  (grouped context trivial all).flatMap fun group =>
    match group.head?, group.getLast? with
    | some head, some last =>
        let oldFirst := head.oldFirst - context
        let newFirst := head.newFirst - (head.oldFirst - oldFirst)
        let oldLast := min a.size (last.oldFirst + last.oldCount + context)
        let newLast := last.newFirst + last.newCount + (oldLast - (last.oldFirst + last.oldCount))
        let both (x : Change) : Bool := x.oldCount > 0 && x.newCount > 0
        let range (first last : Nat) : Octets :=
          if last ≤ first + 1 then Octets.ofNat last
          else Octets.ofNat (first + 1) ++ ',' :: Octets.ofNat last
        "***************".toList ++ heading [' '] titled a oldFirst ++ "\n*** ".toList ++
          range oldFirst oldLast ++ " ****\n".toList ++
          contextSide a oldFirst oldLast '-'
            (group.map fun x => (x.oldFirst, x.oldCount, both x)) ++
          "--- ".toList ++ range newFirst newLast ++ " ----\n".toList ++
          contextSide b newFirst newLast '+'
            (group.map fun x => (x.newFirst, x.newCount, both x))
    | _, _ => []

/-! ## Orders to an editor -/

/-- Lines that an editor takes in.  A line that is only a point would end them: it goes in with a
second point, which is taken away again. -/
def typedLines : List Line → Bool → Octets
  | [], open' => if open' then ['.', '\n'] else []
  | l :: rest, open' =>
      (if open' then [] else ['a', '\n']) ++
        (if l.text = ['.'] then "..\n.\ns/.//\n".toList ++ typedLines rest false
        else plain l ++ typedLines rest true)

def editorText (b : Array Line) (all : List Change) : Octets :=
  all.reverse.flatMap fun x =>
    rangeText ',' x.oldFirst x.oldCount ++ [x.letter, '\n'] ++
      (if x.newCount = 0 then [] else typedLines (part b x.newFirst x.newCount) true)

/-- The changes from the first one on, in a form like orders to an editor. -/
def forwardText (b : Array Line) (all : List Change) : Octets :=
  all.flatMap fun x =>
    x.letter :: rangeText ' ' x.oldFirst x.oldCount ++ ['\n'] ++
      (if x.newCount = 0 then []
      else (part b x.newFirst x.newCount).flatMap plain ++ ['.', '\n'])

/-- The changes by how many lines are taken away and added. -/
def countedText (b : Array Line) (all : List Change) : Octets :=
  all.flatMap fun x =>
    (if x.oldCount = 0 then []
    else 'd' :: Octets.ofNat (x.oldFirst + 1) ++ ' ' :: Octets.ofNat x.oldCount ++ ['\n']) ++
    (if x.newCount = 0 then []
    else 'a' :: Octets.ofNat (x.oldFirst + x.oldCount) ++ ' ' :: Octets.ofNat x.newCount ++
      '\n' :: (part b x.newFirst x.newCount).flatMap fun l =>
        l.text ++ (if l.ended then ['\n'] else []))

/-! ## Two columns -/

structure Columns where
  half : Nat
  second : Nat
  expands : Bool
  tabSize : Nat
  onlyChanges : Bool
  onlyLeft : Bool

def Columns.ofWidth (width tabSize : Nat) (expands onlyChanges onlyLeft : Bool) : Columns :=
  let unit := if expands then 1 else tabSize
  let loose := width / 2 + (unit + 3) / 2 + (if width % 2 = 1 && (unit + 3) % 2 = 1 then 1 else 0)
  let second := loose - loose % unit
  let half := min (second - 3) (width - second)
  ⟨half, if half = 0 then width else second, expands, tabSize, onlyChanges, onlyLeft⟩

def Columns.gap (k : Columns) (fuel first last : Nat) : Octets :=
  match fuel with
  | 0 => []
  | fuel + 1 =>
      let stop := first + k.tabSize - first % k.tabSize
      if !k.expands && stop ≤ last then '\t' :: k.gap fuel stop last
      else List.replicate (last - first) ' '

/-- What of a line fits into a column, and where it ends.  `read` counts what has been seen of the
line, and `written` what has been written. -/
def Columns.halfLine (k : Columns) (read written : Nat) : Octets → Octets × Nat
  | [] => ([], written)
  | '\t' :: rest =>
      let blanks := k.tabSize - read % k.tabSize
      if read = written then
        let stop := written + blanks
        if k.expands then
          let (text, place) := k.halfLine (read + blanks) (max written (min stop k.half)) rest
          (List.replicate (min stop k.half - written) ' ' ++ text, place)
        else if stop < k.half then
          let (text, place) := k.halfLine (read + blanks) stop rest
          ('\t' :: text, place)
        else k.halfLine (read + blanks) written rest
      else k.halfLine (read + blanks) written rest
  | ch :: rest =>
      if read < k.half then
        let (text, place) := k.halfLine (read + 1) (read + 1) rest
        (ch :: text, place)
      else k.halfLine (read + 1) written rest

def Columns.row (k : Columns) (left : Option Line) (sign : Char) (right : Option Line) : Octets :=
  let ends (l : Option Line) : Bool := l.any Line.ended
  let (text, column) := match left with
    | some l => k.halfLine 0 0 l.text
    | none => ([], 0)
  let sign := if sign == '|' && ends left != ends right then
      (if ends left then '/' else '\\')
    else sign
  let (text, column) := if sign == ' ' then (text, column)
    else
      let place := (k.half + k.second - 1) / 2
      (text ++ k.gap (place + 1) column place ++ [sign], place + 1)
  let text := match right with
    | some l =>
        if l.text.isEmpty then text
        else text ++ k.gap (k.second + 1) column k.second ++ (k.halfLine 0 0 l.text).1
    | none => text
  text ++ (if ends left || ends right then ['\n'] else [])

def columnsText (k : Columns) (a b : Array Line) (all : List Change) : Octets :=
  let same (old new count countNew : Nat) : Octets :=
    if k.onlyChanges then []
    else if k.onlyLeft then (part a old count).flatMap fun l => k.row (some l) '(' none
    else
      let common := min count countNew
      ((part a old common).zip (part b new common)).flatMap (fun (l, r) =>
        k.row (some l) ' ' (some r)) ++
      (part b (new + common) (countNew - common)).flatMap (fun r => k.row none ')' (some r)) ++
      (part a (old + common) (count - common)).flatMap (fun l => k.row (some l) '(' none)
  let (text, old, new) := all.foldl (fun ((text, old, new) : Octets × Nat × Nat) x =>
    let common := min x.oldCount x.newCount
    let pairs := (part a x.oldFirst common).zip (part b x.newFirst common)
    (text ++ same old new (x.oldFirst - old) (x.newFirst - new) ++
      pairs.flatMap (fun (l, r) => k.row (some l) '|' (some r)) ++
      (part b (x.newFirst + common) (x.newCount - common)).flatMap
        (fun r => k.row none '>' (some r)) ++
      (part a (x.oldFirst + common) (x.oldCount - common)).flatMap
        (fun l => k.row (some l) '<' none),
      x.oldFirst + x.oldCount, x.newFirst + x.newCount)) ([], 0, 0)
  text ++ same old new (a.size - old) (b.size - new)

end Difference

end Utility

end Conformance
