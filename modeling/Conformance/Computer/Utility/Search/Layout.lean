import Conformance.Computer.Utility.Basic
import Conformance.Computer.Utility.Search.Matcher

/-!
# Selected lines

The lines of a file that are selected, or only their matches, with labels in front and lines around
them.
-/

namespace Conformance

namespace Utility

namespace Search

/-- What is done with files that hold what is no text. -/
inductive Binary where
  | told
  | asText
  | skipped
  deriving DecidableEq, Repr

structure Layout where
  number : Bool
  offset : Bool
  only : Bool
  /-- The lines before a selected one that are shown with it; without a number, nothing separates
  lines that do not follow each other. -/
  before : Option Nat
  after : Option Nat
  inverted : Bool
  most : Option Nat
  ending : Char
  binary : Binary
  separator : Option Octets
  colored : Bool
  tabbed : Bool
  zeroed : Bool

def Layout.paint (l : Layout) (color : String) (s : Octets) : Octets :=
  if l.colored then
    "\x1b[".toList ++ color.toList ++ "m\x1b[K".toList ++ s ++ "\x1b[m\x1b[K".toList
  else s

/-- What has been printed of a file so far. -/
structure Progress where
  printed : List Octets
  /-- The lines before this one that could still be printed as context, newest first. -/
  waiting : List (Nat × Nat × Octets)
  owed : Nat
  last : Nat
  count : Nat
  used : Bool
  garbled : Bool

def nameLabel (l : Layout) (name : Octets) (mark : Char) : Octets :=
  l.paint "35" name ++ (if l.zeroed then ['\x00'] else l.paint "36" [mark])

def labels (l : Layout) (name : Option Octets) (width : Nat) (mark : Char) (n offset : Nat)
    (isEmpty : Bool) : Octets :=
  let numeral (n : Nat) : Octets :=
    l.paint "32" (if l.tabbed then padLeft width (Octets.ofNat n) else Octets.ofNat n) ++
      l.paint "36" [mark]
  let all := (match name with
    | some name => nameLabel l name mark
    | none => []) ++
    (if l.number then numeral n else []) ++ (if l.offset then numeral offset else [])
  if l.tabbed && !all.isEmpty && !isEmpty then all ++ ['\t'] else all

def painted (m : Matcher) (l : Layout) (line : Octets) : Octets :=
  let t := subject m line
  let (text, last) := (allMatches m t (t.size + 2) 0).foldl
    (fun ((text, last) : Octets × Nat) (i, j) =>
      (text ++ bytesOf m t last i ++ l.paint "01;31" (bytesOf m t i j), j)) ([], 0)
  text ++ bytesOf m t last t.size

def wholeLine (m : Matcher) (l : Layout) (name : Option Octets) (width : Nat) (selected : Bool)
    (n offset : Nat) (line : Octets) : Octets :=
  labels l name width (if selected then ':' else '-') n offset line.isEmpty ++
    (if l.colored && selected != l.inverted then painted m l line else line) ++ [l.ending]

def lineText (m : Matcher) (l : Layout) (name : Option Octets) (width : Nat) (selected : Bool)
    (n offset : Nat) (line : Octets) : Octets :=
  if l.only then
    if selected == l.inverted then []
    else
      let t := subject m line
      (allMatches m t (t.size + 2) 0).flatMap fun (i, j) =>
        labels l name width (if l.inverted then '-' else ':') n
            (offset + (bytesOf m t 0 i).length) false ++
          l.paint "01;31" (bytesOf m t i j) ++ [l.ending]
  else wholeLine m l name width selected n offset line

def step (m : Matcher) (l : Layout) (name : Option Octets) (width : Nat) (p : Progress)
    (line : Octets) (n offset : Nat) : Progress :=
  let full := l.most.any (p.count ≥ ·)
  let selected := !full && selects m line != l.inverted
  let text (selected : Bool) (n offset : Nat) (s : Octets) : Octets :=
    lineText m l name width selected n offset s
  if p.garbled then (if selected then { p with count := p.count + 1 } else p)
  else if selected then
    if l.binary != .asText && isGarbled m line then
      { p with count := p.count + 1, garbled := true }
    else
      let earlier := (p.waiting.take (l.before.getD 0)).reverse
      let first := (earlier.head?.map Prod.fst).getD n
      let follows := p.last > 0 && first = p.last + 1
      let gap : List Octets := match l.separator with
        | some s =>
            if (l.before.isSome || l.after.isSome) && p.used && !follows then
              [l.paint "36" s ++ ['\n']]
            else []
        | none => []
      { p with
        printed := text true n offset line ::
          (earlier.map fun (k, o, s) => text false k o s).reverse ++ gap ++ p.printed
        waiting := []
        owed := l.after.getD 0
        last := n
        used := true
        count := p.count + 1 }
  else if p.owed > 0 then
    { p with
      printed := text false n offset line :: p.printed
      owed := p.owed - 1
      last := n }
  else { p with waiting := ((n, offset, line) :: p.waiting).take (l.before.getD 0) }

def linesOf (ending : Char) (s : Octets) : List Octets :=
  let parts := splitAt ending s
  if parts.getLast? == some [] then parts.dropLast else parts

def searchText (m : Matcher) (l : Layout) (name : Option Octets) (width : Nat) (used : Bool)
    (s : Octets) : Progress :=
  let isBinary := l.binary != .asText && l.ending != '\x00' && s.contains '\x00'
  let start : Progress := ⟨[], [], 0, 0, 0, used, isBinary⟩
  if isBinary && l.binary = .skipped then start
  else
    let s := if isBinary then s.map fun ch => if ch == '\x00' then '\n' else ch else s
    ((linesOf l.ending s).foldl (fun ((p, n, offset) : Progress × Nat × Nat) line =>
      (step m l name width p line n offset, n + 1, offset + line.length + 1)) (start, 1, 0)).1

end Search

end Utility

end Conformance
