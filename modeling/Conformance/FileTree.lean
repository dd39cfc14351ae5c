import Conformance.Path
import Conformance.Text.Utf8

/-!
# File trees

Files, directories and symbolic links, each at the place that its chain of names leads to.  The top
of the tree is always a directory.  An entry that stands at several places has one number at all of
them; a number is never given twice.
-/

namespace Conformance

/-- What can be read from a file. -/
inductive Content where
  | bytes (data : Bytes)
  /-- A device that takes everything and gives nothing. -/
  | null
  /-- A device that gives zero bytes without end. -/
  | zeros
  /-- A device that takes nothing because it has no room. -/
  | full
  /-- A named pipe. -/
  | fifo
  /-- An installed program, known by its name. -/
  | program (name : String)
  deriving DecidableEq, Repr

/-- What the first bytes of every installed program are. -/
def programMark : Bytes := [0x7F, 0x45, 0x4C, 0x46]

/-- What a reader gets who reads to the end.  Endless zeros count as nothing here, as a pipe does
that nobody writes to. -/
def Content.data : Content → Bytes
  | bytes data => data
  | null | zeros | full | fifo => []
  | program _ => programMark

inductive Entry where
  | file (content : Content)
  | directory
  | link (target : Path)
  deriving DecidableEq, Repr

namespace Entry

def isDirectory : Entry → Bool
  | directory => true
  | _ => false

/-- Devices and pipes are no regular files. -/
def isRegular : Entry → Bool
  | file (.bytes _) | file (.program _) => true
  | _ => false

def isLink : Entry → Bool
  | link _ => true
  | _ => false

end Entry

/-- The names that lead from the top to an entry. -/
abbrev Location := List String

/-- The absolute path of a location. -/
def Location.toPath (loc : Location) : Path :=
  ⟨"/" ++ String.intercalate "/" loc⟩

/-- What is known about an entry besides what it holds: its number, its permission bits, and times in
microseconds. -/
structure Stamp where
  number : Nat
  mode : Nat
  /-- When what it holds was changed last. -/
  time : Nat
  /-- When it was read last. -/
  accessed : Nat
  /-- When something about it was changed last. -/
  altered : Nat
  deriving DecidableEq, Repr

namespace Stamp

/-- The owner's permissions. -/
def isReadable (s : Stamp) : Bool := s.mode.testBit 8

def isWritable (s : Stamp) : Bool := s.mode.testBit 7

def isExecutable (s : Stamp) : Bool := s.mode.testBit 6

end Stamp

structure Node where
  location : Location
  entry : Entry
  stamp : Stamp
  deriving Repr

structure FileTree where
  nodes : List Node
  /-- The number that the next new entry gets. -/
  nextNumber : Nat
  /-- The time at which changes are made. -/
  now : Nat
  deriving Repr

namespace FileTree

def empty : FileTree := ⟨[], 3, 0⟩

/-- The stamp of the top. -/
def topStamp : Stamp := ⟨2, 0o755, 0, 0, 0⟩

/-- How far apart the times are at which changes count as made, in microseconds. -/
def tick : Nat := 4000

/-- The tree as it is changed from a time on. -/
def atTime (t : FileTree) (micros : Nat) : FileTree := { t with now := micros / tick * tick }

/-- The tree as if all its entries had been made at a time. -/
def agedTo (t : FileTree) (micros : Nat) : FileTree :=
  let t := t.atTime micros
  { t with nodes := t.nodes.map fun n =>
      { n with stamp := { n.stamp with time := t.now, accessed := t.now, altered := t.now } } }

def node? (t : FileTree) (loc : Location) : Option Node :=
  if loc = [] then some ⟨[], .directory, topStamp⟩ else t.nodes.find? (·.location = loc)

def find (t : FileTree) (loc : Location) : Option Entry :=
  (t.node? loc).map Node.entry

def stamp? (t : FileTree) (loc : Location) : Option Stamp :=
  (t.node? loc).map Node.stamp

/-- The entry with a number, wherever it stands. -/
def withNumber? (t : FileTree) (number : Nat) : Option Node :=
  if number = topStamp.number then some ⟨[], .directory, topStamp⟩
  else t.nodes.find? (·.stamp.number = number)

/-- The permission bits that an entry has if nothing else is said. -/
def standardMode : Entry → Nat
  | .file (.program _) | .directory => 0o755
  | .file (.bytes _) => 0o644
  | .file _ => 0o666
  | .link _ => 0o777

/-- Puts a new entry where it takes the place of what was there. -/
def insertWith (t : FileTree) (mode : Nat) (loc : Location) (e : Entry) : FileTree :=
  { t with
    nodes := ⟨loc, e, ⟨t.nextNumber, mode, t.now, t.now, t.now⟩⟩ :: t.nodes.filter (·.location != loc)
    nextNumber := t.nextNumber + 1 }

def insert (t : FileTree) (loc : Location) (e : Entry) : FileTree :=
  t.insertWith (standardMode e) loc e

/-- Gives a file new content at all its places. -/
def rewrite (t : FileTree) (number : Nat) (content : Content) : FileTree :=
  { t with nodes := t.nodes.map fun n =>
      if n.stamp.number = number then
        { n with
          entry := .file content
          stamp := { n.stamp with time := t.now, altered := t.now } }
      else n }

/-- The numbers of the files that are longer than a length and were not so in another tree. -/
def grownPast (t before : FileTree) (length : Nat) : List Nat :=
  (t.nodes.filterMap fun n =>
    match n.entry with
    | .file (.bytes data) =>
        if data.length ≤ length then none
        else match before.withNumber? n.stamp.number with
          | some ⟨_, .file (.bytes old), _⟩ => if data = old then none else some n.stamp.number
          | _ => some n.stamp.number
    | _ => none).eraseDups

/-- Cuts files off at a length. -/
def cutAt (t : FileTree) (length : Nat) (numbers : List Nat) : FileTree :=
  { t with nodes := t.nodes.map fun n =>
      match n.entry with
      | .file (.bytes data) =>
          if numbers.contains n.stamp.number then
            { n with entry := .file (.bytes (data.take length)) }
          else n
      | _ => n }

/-- Changes what is known about an entry at all its places. -/
def restamp (t : FileTree) (number : Nat) (f : Stamp → Stamp) : FileTree :=
  { t with nodes := t.nodes.map fun n =>
      if n.stamp.number = number then { n with stamp := { f n.stamp with altered := t.now } }
      else n }

/-- Puts an entry at one more place. -/
def share (t : FileTree) (source target : Location) : FileTree :=
  match t.node? source with
  | none => t
  | some n => { t with
      nodes := { n with location := target } :: t.nodes.filter (·.location != target) }

/-- Takes away an entry and everything below it. -/
def erase (t : FileTree) (loc : Location) : FileTree :=
  { t with nodes := t.nodes.filter fun n => !loc.isPrefixOf n.location }

/-- Moves an entry and everything below it. -/
def move (t : FileTree) (source target : Location) : FileTree :=
  let rest := (t.erase target).erase source
  let moved := t.nodes.filterMap fun n =>
    if source.isPrefixOf n.location then
      some { n with location := target ++ n.location.drop source.length }
    else none
  { t with nodes := moved ++ rest.nodes }

/-- The name of an entry right below a directory. -/
def nameBelow (dir loc : Location) : Option String :=
  match loc.reverse with
  | [] => none
  | name :: up => if up.reverse = dir then some name else none

/-- The names in a directory, in the order of their code points, which is that of their bytes. -/
def names (t : FileTree) (dir : Location) : List String :=
  (t.nodes.filterMap fun n => nameBelow dir n.location).eraseDups.mergeSort
    fun a b => !decide (b < a)

/-- Makes the directories on the way to an entry that are not there yet. -/
def insertParents (t : FileTree) (loc : Location) : FileTree :=
  (List.range loc.length).foldl (fun t n =>
    let dir := loc.take n
    if (t.find dir).isSome then t else t.insert dir .directory) t

end FileTree

end Conformance
