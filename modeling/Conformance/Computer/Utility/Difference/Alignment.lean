import Conformance.Computer.Text.Octets
import Std.Data.HashMap

/-!
# Alignment

Which lines of one list have to be taken away, and which to be put in, to make another list of it.
A shortest way is searched for from both ends at once, and the parts before and behind the point
where the searches meet are aligned in the same manner.  In the end runs of changes are moved as far
down as they can be, or to where the other list changes too.

Lines are compared by numbers: equal lines have equal ones.
-/

namespace Conformance

namespace Utility

namespace Difference

/-- Lines that are taken away from one list and put into the other, by where they stand. -/
structure Change where
  oldFirst : Nat
  oldCount : Nat
  newFirst : Nat
  newCount : Nat
  deriving DecidableEq, Repr

structure Sides where
  old : Array Nat
  new : Array Nat
  deriving Repr

/-- For each line of the two lists whether it is changed. -/
structure Marks where
  old : Array Bool
  new : Array Bool
  deriving Repr

/-! ## Numbers for lines -/

def numberKeys (known : Std.HashMap Octets Nat) (keys : List Octets) :
    Std.HashMap Octets Nat × List Nat :=
  let (known, numbers) := keys.foldl (fun ((known, numbers) : Std.HashMap Octets Nat × List Nat) k =>
    match known[k]? with
    | some n => (known, n :: numbers)
    | none => (known.insert k known.size, known.size :: numbers)) (known, [])
  (known, numbers.reverse)

def Sides.ofKeys (old new : List Octets) : Sides :=
  let (known, old) := numberKeys ∅ old
  let (_, new) := numberKeys known new
  ⟨old.toArray, new.toArray⟩

/-! ## Lines that match nothing -/

/-- What becomes of a line before the search: it is kept, left out, or left out if its surroundings
allow it. -/
inductive Fate where
  | kept
  | doubtful
  | dropped
  deriving DecidableEq, Repr

def rootScale (fuel start n : Nat) : Nat :=
  match fuel with
  | 0 => start
  | fuel + 1 => if n / 4 = 0 then start else rootScale fuel (2 * start) (n / 4)

/-- Lines that match no line of the other list are dropped; those that match many are doubtful. -/
def fatesOf (own other : Array Nat) : List Fate :=
  let counts : Std.HashMap Nat Nat := other.foldl (fun t n => t.insert n (t.getD n 0 + 1)) ∅
  let many := rootScale 64 5 (own.size / 64)
  own.toList.map fun n =>
    let matching := counts.getD n 0
    if matching = 0 then .dropped else if matching > many then .doubtful else .kept

def keepLongRuns (least fuel : Nat) (fates : List Fate) : List Fate :=
  match fuel, fates with
  | 0, fates => fates
  | _, [] => []
  | fuel + 1, x :: rest =>
      let run := (x :: rest).takeWhile (· == .doubtful)
      if run.isEmpty then x :: keepLongRuns least fuel rest
      else
        (if run.length ≥ least then List.replicate run.length .kept else run) ++
          keepLongRuns least fuel ((x :: rest).drop run.length)

def keepFront (place inRow : Nat) : List Fate → List Fate
  | [] => []
  | .dropped :: rest =>
      if place ≥ 8 || inRow = 2 then .dropped :: rest
      else .dropped :: keepFront (place + 1) (inRow + 1) rest
  | _ :: rest => .kept :: keepFront (place + 1) 0 rest

def settleRun (run : List Fate) : List Fate :=
  let doubtful := (run.filter (· == .doubtful)).length
  if doubtful * 4 > run.length then run.map fun x => if x = .doubtful then .kept else x
  else
    let least := rootScale 64 1 (run.length / 4) + 1
    let run := keepFront 0 0 (keepLongRuns least (run.length + 1) run)
    (keepFront 0 0 run.reverse).reverse

/-- Decides on all doubtful lines; those outside of a run of dropped ones are kept. -/
def settle (fuel : Nat) (fates : List Fate) : List Fate :=
  match fuel, fates with
  | 0, fates => fates
  | _, [] => []
  | fuel + 1, .dropped :: rest =>
      let run := (Fate.dropped :: rest).takeWhile (· != .kept)
      let core := (run.reverse.dropWhile (· == .doubtful)).reverse
      settleRun core ++ List.replicate (run.length - core.length) .kept ++
        settle fuel ((Fate.dropped :: rest).drop run.length)
  | fuel + 1, _ :: rest => .kept :: settle fuel rest

def leftOut (own other : Array Nat) : Array Bool :=
  ((settle (own.size + 1) (fatesOf own other)).map (· != .kept)).toArray

/-! ## The search -/

structure Window where
  oldFirst : Nat
  oldLast : Nat
  newFirst : Nat
  newLast : Nat

/-- How far a search has come: for each diagonal the place that it has reached, and the diagonals
that it is on. -/
structure Front where
  reach : Array Int
  least : Int
  most : Int

namespace Sides

variable (s : Sides)

def agree (x y : Int) : Bool :=
  match s.old[x.toNat]?, s.new[y.toNat]? with
  | some a, some b => a == b
  | _, _ => false

def slot (d : Int) : Nat := (d + (s.new.size : Int) + 2).toNat

def reached (f : Front) (d : Int) : Int := f.reach.getD (s.slot d) 0

def slideOn (w : Window) (fuel : Nat) (x y : Int) : Int :=
  match fuel with
  | 0 => x
  | fuel + 1 =>
      if x < (w.oldLast : Int) && y < (w.newLast : Int) && s.agree x y then
        slideOn w fuel (x + 1) (y + 1)
      else x

def slideBack (w : Window) (fuel : Nat) (x y : Int) : Int :=
  match fuel with
  | 0 => x
  | fuel + 1 =>
      if (w.oldFirst : Int) < x && (w.newFirst : Int) < y && s.agree (x - 1) (y - 1) then
        slideBack w fuel (x - 1) (y - 1)
      else x

/-- Lets a search go to one diagonal more on each side, unless there is none; nothing has been
reached on the diagonals outside. -/
def widen (w : Window) (outside : Int) (f : Front) : Front :=
  let lowest : Int := (w.oldFirst : Int) - w.newLast
  let highest : Int := (w.oldLast : Int) - w.newFirst
  let f := if f.least > lowest then
      { f with
        least := f.least - 1,
        reach := f.reach.setIfInBounds (s.slot (f.least - 2)) outside }
    else { f with least := f.least + 1 }
  if f.most < highest then
    { f with
      most := f.most + 1,
      reach := f.reach.setIfInBounds (s.slot (f.most + 2)) outside }
  else { f with most := f.most - 1 }

def diagonals (f : Front) : List Int :=
  if f.most < f.least then []
  else (List.range (((f.most - f.least) / 2).toNat + 1)).map fun k : Nat => f.most - 2 * (k : Int)

/-- Extends a search on some diagonals.  It ends where `meets` says that a place is one which the
other search has reached. -/
def extend (next : Front → Int → Int) (meets : Int → Int → Bool) :
    Front → List Int → Front × Option (Int × Int)
  | f, [] => (f, none)
  | f, d :: rest =>
      let x := next f d
      let f := { f with reach := f.reach.setIfInBounds (s.slot d) x }
      if meets d x then (f, some (x, x - d)) else extend next meets f rest

def meet (w : Window) (fuel : Nat) (onward backward : Front) : Option (Int × Int) :=
  match fuel with
  | 0 => none
  | fuel + 1 =>
      let size := s.old.size + s.new.size
      let shift : Int :=
        ((w.oldFirst : Int) - w.newFirst) - ((w.oldLast : Int) - w.newLast)
      let odd := shift % 2 != 0
      let isOn (f : Front) (d : Int) : Bool := f.least ≤ d && d ≤ f.most
      let onward := s.widen w (-1) onward
      let step (f : Front) (d : Int) : Int :=
        let low := s.reached f (d - 1)
        let high := s.reached f (d + 1)
        let x := if low < high then high else low + 1
        s.slideOn w size x (x - d)
      let meets (d x : Int) : Bool := odd && isOn backward d && s.reached backward d ≤ x
      match s.extend step meets onward (diagonals onward) with
      | (_, some point) => some point
      | (onward, none) =>
          let backward := s.widen w ((size : Int) + 1) backward
          let step (f : Front) (d : Int) : Int :=
            let low := s.reached f (d - 1)
            let high := s.reached f (d + 1)
            let x := if low < high then low else high - 1
            s.slideBack w size x (x - d)
          let meets (d x : Int) : Bool := !odd && isOn onward d && x ≤ s.reached onward d
          match s.extend step meets backward (diagonals backward) with
          | (_, some point) => some point
          | (backward, none) => meet w fuel onward backward

def middle (w : Window) : Option (Int × Int) :=
  let blank : Array Int := Array.replicate (s.old.size + s.new.size + 5) 0
  let front (x y : Nat) : Front :=
    let d : Int := (x : Int) - y
    ⟨blank.setIfInBounds (s.slot d) (x : Int), d, d⟩
  s.meet w (s.old.size + s.new.size + 2) (front w.oldFirst w.newFirst)
    (front w.oldLast w.newLast)

/-- Marks the lines of a window that are changed.  Fuel bounds how often it is divided. -/
def mark (fuel : Nat) (w : Window) (m : Marks) : Marks :=
  match fuel with
  | 0 => m
  | fuel + 1 =>
      let size := s.old.size + s.new.size
      let front := (s.slideOn w size w.oldFirst w.newFirst).toNat - w.oldFirst
      let w := { w with oldFirst := w.oldFirst + front, newFirst := w.newFirst + front }
      let back := w.oldLast - (s.slideBack w size w.oldLast w.newLast).toNat
      let w := { w with oldLast := w.oldLast - back, newLast := w.newLast - back }
      let fill (flags : Array Bool) (first last : Nat) : Array Bool :=
        (List.range (last - first)).foldl (fun flags k => flags.setIfInBounds (first + k) true) flags
      if w.oldFirst ≥ w.oldLast then { m with new := fill m.new w.newFirst w.newLast }
      else if w.newFirst ≥ w.newLast then { m with old := fill m.old w.oldFirst w.oldLast }
      else match s.middle w with
        | none =>
            ⟨fill m.old w.oldFirst w.oldLast, fill m.new w.newFirst w.newLast⟩
        | some (x, y) =>
            let m := mark fuel { w with oldLast := x.toNat, newLast := y.toNat } m
            mark fuel { w with oldFirst := x.toNat, newFirst := y.toNat } m

/-- The lines that are changed on a shortest way, among those that stay in the search; the others
are all changed.  With `thorough`, all lines stay in it. -/
def marks (thorough : Bool) : Marks :=
  let out (own other : Array Nat) : Array Bool :=
    if thorough then Array.replicate own.size false else leftOut own other
  let places (flags : Array Bool) : Array Nat :=
    ((List.range flags.size).filter fun n => !flags.getD n false).toArray
  let outOld := out s.old s.new
  let outNew := out s.new s.old
  let placesOld := places outOld
  let placesNew := places outNew
  let inner : Sides :=
    ⟨placesOld.map fun n => s.old.getD n 0, placesNew.map fun n => s.new.getD n 0⟩
  let found := inner.mark (inner.old.size + inner.new.size + 1)
    ⟨0, inner.old.size, 0, inner.new.size⟩
    ⟨Array.replicate inner.old.size false, Array.replicate inner.new.size false⟩
  let back (flags : Array Bool) (places : Array Nat) (marked : Array Bool) : Array Bool :=
    (places.toList.zip marked.toList).foldl (fun flags (n, b) => flags.setIfInBounds n b) flags
  ⟨back outOld placesOld found.old, back outNew placesNew found.new⟩

end Sides

/-! ## Moving runs of changes -/

def runEnd (flags : Array Bool) (fuel n : Nat) : Nat :=
  match fuel with
  | 0 => n
  | fuel + 1 => if flags.getD n false then runEnd flags fuel (n + 1) else n

def runStart (flags : Array Bool) : Nat → Nat
  | 0 => 0
  | n + 1 => if flags.getD n false then runStart flags n else n + 1

/-- A run of changes in one list that is being moved, with the place in the other list that
corresponds to its end. -/
structure Moving where
  flags : Array Bool
  first : Nat
  last : Nat
  other : Nat
  corresponding : Option Nat

def moveUp (keys : Array Nat) (others : Array Bool) (fuel : Nat) (r : Moving) : Moving :=
  match fuel with
  | 0 => r
  | fuel + 1 =>
      if r.first > 0 && keys[r.first - 1]? == keys[r.last - 1]? then
        let flags := (r.flags.setIfInBounds (r.first - 1) true).setIfInBounds (r.last - 1) false
        moveUp keys others fuel
          { r with
            flags,
            first := runStart flags (r.first - 1),
            last := r.last - 1,
            other := runStart others r.other - 1 }
      else r

def moveDown (keys : Array Nat) (others : Array Bool) (fuel : Nat) (r : Moving) : Moving :=
  match fuel with
  | 0 => r
  | fuel + 1 =>
      if r.last < keys.size && keys[r.first]? == keys[r.last]? then
        let flags := (r.flags.setIfInBounds r.first false).setIfInBounds r.last true
        let last := runEnd flags (flags.size + 1) (r.last + 1)
        let other := runEnd others (others.size + 1) (r.other + 1)
        moveDown keys others fuel
          { flags, first := r.first + 1, last, other,
            corresponding := if other > r.other + 1 then some last else r.corresponding }
      else r

def moveFully (keys : Array Nat) (others : Array Bool) (fuel : Nat) (r : Moving) : Moving :=
  match fuel with
  | 0 => r
  | fuel + 1 =>
      let length := r.last - r.first
      let r := moveUp keys others (keys.size + 1) r
      let touches := r.other > 0 && others.getD (r.other - 1) false
      let r := moveDown keys others (keys.size + 1)
        { r with corresponding := if touches then some r.last else none }
      if r.last - r.first = length then r else moveFully keys others fuel r

def moveUpTo (target : Nat) (others : Array Bool) (fuel : Nat) (r : Moving) : Moving :=
  match fuel with
  | 0 => r
  | fuel + 1 =>
      if target < r.last then
        moveUpTo target others fuel
          { r with
            flags :=
              (r.flags.setIfInBounds (r.first - 1) true).setIfInBounds (r.last - 1) false,
            first := r.first - 1,
            last := r.last - 1,
            other := runStart others r.other - 1 }
      else r

def moveRuns (keys : Array Nat) (others : Array Bool) (fuel place other : Nat)
    (flags : Array Bool) : Array Bool :=
  match fuel with
  | 0 => flags
  | fuel + 1 =>
      if place ≥ keys.size then flags
      else if !flags.getD place false then
        moveRuns keys others fuel (place + 1) (runEnd others (others.size + 1) other + 1) flags
      else
        let r := moveFully keys others (keys.size + 1)
          ⟨flags, place, runEnd flags (flags.size + 1) place,
            runEnd others (others.size + 1) other, none⟩
        let r := match r.corresponding with
          | some target => moveUpTo target others (keys.size + 1) r
          | none => r
        moveRuns keys others fuel r.last r.other r.flags

def Marks.moved (m : Marks) (s : Sides) : Marks :=
  let old := moveRuns s.old m.new (2 * s.old.size + 2) 0 0 m.old
  ⟨old, moveRuns s.new old (2 * s.new.size + 2) 0 0 m.new⟩

/-! ## The result -/

def changesFrom (fuel i j : Nat) (marksA marksB : List Bool) : List Change :=
  match fuel with
  | 0 => []
  | fuel + 1 =>
    let old := (marksA.takeWhile id).length
    let new := (marksB.takeWhile id).length
    let restA := (marksA.drop old).drop 1
    let restB := (marksB.drop new).drop 1
    let more := if marksA.length ≤ old && marksB.length ≤ new then []
      else changesFrom fuel (i + old + 1) (j + new + 1) restA restB
    if old = 0 && new = 0 then more else ⟨i, old, j, new⟩ :: more

def commonCount {α : Type} [BEq α] : List α → List α → Nat
  | a :: s, b :: t => if a == b then commonCount s t + 1 else 0
  | _, _ => 0

/-- The changes that make the second list of the first.  Lines that are the same at the beginning
and the end take no part, but for some next to the changes; what counts as the same there, the texts
say, and the keys everywhere else. -/
def changes (thorough : Bool) (horizon : Nat) (sameEnd : Bool) (oldTexts newTexts : List Octets)
    (oldKeys newKeys : List Octets) : List Change :=
  let front := commonCount oldTexts newTexts - horizon
  let back := if sameEnd then
      commonCount (oldTexts.drop front).reverse (newTexts.drop front).reverse - horizon
    else 0
  let inner (keys : List Octets) : List Octets := (keys.drop front).take (keys.length - front - back)
  let s := Sides.ofKeys (inner oldKeys) (inner newKeys)
  let m := (s.marks thorough).moved s
  (changesFrom (s.old.size + s.new.size + 2) 0 0 m.old.toList m.new.toList).map fun x =>
    { x with oldFirst := front + x.oldFirst, newFirst := front + x.newFirst }

end Difference

end Utility

end Conformance
