import Conformance.Computer.Text.Octets
import Std.Data.HashMap

/-!
# Arrays of programs

An array has texts and whole numbers as keys; a number is the same key as its decimal text.  The
order in which a loop takes the keys is that of their chains: a key goes to the front of its chain
whenever it is looked for, texts are spread over the chains by a checksum and numbers by their
remainder, and the number of chains doubles when they become long.
-/

namespace Conformance

namespace Utility

namespace Records

inductive Key where
  | number (n : Int)
  | text (s : Octets)
  deriving DecidableEq, Repr

def Key.toText : Key → Octets
  | .number n => (toString n).toList
  | .text s => s

/-- A checksum that takes up one byte after the other by an exclusive or and a product. -/
def checksum (s : Octets) : Nat :=
  (s.foldl (fun (h : UInt32) c => (h ^^^ UInt32.ofNat c.toNat) * 16777619) 2166136261).toNat

structure Table (α : Type) where
  cells : Std.HashMap Octets α
  /-- The keys are the numbers from one on, and have not been put into chains. -/
  isRow : Bool
  hasTexts : Bool
  texts : Array (List Octets)
  numbers : Array (List Int)

namespace Table

variable {α : Type}

def firstSize : Nat := 64

/-- How long chains are on average when their number doubles. -/
def longest : Nat := 12

def empty : Table α := ⟨∅, false, false, .replicate firstSize [], .replicate firstSize []⟩

def size (t : Table α) : Nat := t.cells.size

/-- The array with some values under the numbers from one on. -/
def ofList (l : List α) : Table α :=
  if l.isEmpty then empty
  else { (empty : Table α) with
    cells := (l.zipIdx 1).foldl (fun m (x, n) => m.insert (Octets.ofNat n) x) ∅
    isRow := true }

def numberPlace (count : Nat) (n : Int) : Nat := (n % (count : Int)).toNat

def textPlace (count : Nat) (s : Octets) : Nat := checksum s % count

def chainsFor (size : Nat) (fuel count : Nat) : Nat :=
  match fuel with
  | 0 => count
  | fuel + 1 => if size > count * longest then chainsFor size fuel (2 * count) else count

def chained (t : Table α) : Table α :=
  if t.isRow then
    let count := chainsFor t.size 32 firstSize
    let numbers := (List.range t.size).foldl (fun (a : Array (List Int)) (k : Nat) =>
      let n : Int := (k : Int) + 1
      a.modify (numberPlace count n) (n :: ·)) (.replicate count [])
    { t with isRow := false, texts := .replicate count [], numbers }
  else t

/-- The array with all keys in chains as texts. -/
def named (t : Table α) : Table α :=
  let t := t.chained
  if t.hasTexts then t
  else
    let count := t.texts.size
    let texts := t.numbers.foldl (fun (a : Array (List Octets)) chain =>
      chain.foldl (fun a n =>
        let s := (Key.number n).toText
        a.modify (textPlace count s) (s :: ·)) a) t.texts
    { t with texts, hasTexts := true }

def doubled (t : Table α) : Table α :=
  let count := 2 * t.texts.size
  let halves {β : Type} (place : β → Nat) (a : Array (List β)) : Array (List β) :=
    (a.mapIdx fun i chain => chain.filter fun k => place k = i) ++
      (a.mapIdx fun i chain => chain.filter fun k => place k ≠ i)
  { t with
    texts := halves (textPlace count) t.texts
    numbers := halves (numberPlace count) t.numbers }

def grown (t : Table α) : Table α :=
  if t.size + 1 > t.texts.size * longest then t.doubled else t

/-- Looks for a text, which comes to the front of its chain, and is put there if it `enters`. -/
def seekText (t : Table α) (s : Octets) (enters : Bool) : Table α :=
  let t := t.named
  if t.cells.contains s then
    { t with texts := t.texts.modify (textPlace t.texts.size s) fun chain => s :: chain.erase s }
  else if enters then
    let t := t.grown
    { t with texts := t.texts.modify (textPlace t.texts.size s) (s :: ·) }
  else t

def seekNumber (t : Table α) (n : Int) (enters : Bool) : Table α :=
  if t.isRow && 1 ≤ n && n ≤ (t.size : Int) + (if enters then 1 else 0) then t
  else
    let t := t.chained
    let chain := (t.numbers[numberPlace t.numbers.size n]?).getD []
    let front (t : Table α) : Table α :=
      { t with numbers :=
          t.numbers.modify (numberPlace t.numbers.size n) fun chain => n :: chain.erase n }
    let s := (Key.number n).toText
    if chain.contains n then front t
    else if t.hasTexts then
      let known := t.cells.contains s
      let t := t.seekText s enters
      if known || enters then front t else t
    else if enters then front t.grown
    else t

def seek (t : Table α) (k : Key) (enters : Bool) : Table α :=
  if t.size = 0 && !enters then t
  else
    -- An array that has lost all keys begins anew.
    let t := if t.size = 0 then empty else t
    match k with
    | .number n => t.seekNumber n enters
    | .text s => t.seekText s enters

def contains (t : Table α) (k : Key) : Bool := t.cells.contains k.toText

def get? (t : Table α) (k : Key) : Option α := t.cells[k.toText]?

def insert (t : Table α) (k : Key) (x : α) : Table α :=
  let t := t.seek k true
  { t with cells := t.cells.insert k.toText x }

def erase (t : Table α) (k : Key) : Table α :=
  let isNumber := match k with
    | .number _ => true
    | .text _ => false
  if !t.contains k then (if t.isRow && isNumber then t else t.seek k false)
  else
    let s := k.toText
    let t := (t.seek k false).chained
    let numbers := match (String.ofList s).toInt? with
      | some n =>
          t.numbers.modify (numberPlace t.numbers.size n) fun chain =>
            if (Key.number n).toText = s then chain.erase n else chain
      | none => t.numbers
    { t with
      cells := t.cells.erase s
      texts := t.texts.modify (textPlace t.texts.size s) (·.erase s)
      numbers }

/-- The keys in the order of their chains, and the array with the chains that this needs. -/
def keys (t : Table α) : List Octets × Table α :=
  let t := t.named
  (t.texts.toList.flatten, t)

end Table

end Records

end Utility

end Conformance
