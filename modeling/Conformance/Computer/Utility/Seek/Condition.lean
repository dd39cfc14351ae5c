import Conformance.Computer.Utility.Directory
import Conformance.Computer.Utility.Person

/-!
# Conditions on entries

What a search in the tree asks of the entries it comes by: tests of their names and of what is known
about them, joined by "not", "and", "or" and the comma, with actions among them.
-/

namespace Conformance

namespace Utility

namespace Seek

/-- How a number has to lie to another one. -/
inductive Bound where
  | less
  | exactly
  | more
  deriving DecidableEq, Repr

structure Amount where
  bound : Bound
  value : Nat
  deriving DecidableEq, Repr

def Amount.fits (a : Amount) (n : Nat) : Bool :=
  match a.bound with
  | .less => n < a.value
  | .exactly => n = a.value
  | .more => n > a.value

/-- An entry that a search has come to. -/
structure Visit where
  file : Octets
  origin : Octets
  depth : Nat
  location : Location
  node : Node
  above : List (Location × Octets)

namespace Visit

def inner (v : Visit) : Octets := (v.file.drop v.origin.length).dropWhile (· == '/')

def name (v : Visit) : Octets := Files.lastName v.file

def directory (v : Visit) : Octets :=
  match (v.file.reverse.dropWhile (· != '/')).reverse with
  | [] => ['.']
  | ['/'] => []
  | s => s.dropLast

end Visit

/-! ## Tests -/

inductive Permission where
  | readable
  | writable
  | executable
  deriving DecidableEq, Repr

def Permission.holds : Permission → Stamp → Bool
  | .readable => Stamp.isReadable
  | .writable => Stamp.isWritable
  | .executable => Stamp.isExecutable

/-- How names are compared with patterns. -/
structure Comparison where
  wide : Bool
  ignoresCase : Bool
  deriving DecidableEq, Repr

namespace Comparison

def casing (m : Comparison) : Text.Casing := .of m.ignoresCase m.wide

def characters (m : Comparison) (s : Octets) : List Char := if m.wide then Octets.toWide s else s

end Comparison

/-- A way in which an entry is used, which leaves a time behind. -/
inductive Way where
  | read
  | changed
  | altered
  deriving DecidableEq, Repr

namespace Way

def time (w : Way) (s : Stamp) : Nat :=
  match w with
  | read => s.accessed
  | changed => s.time
  | altered => s.altered

def ofLetter : Char → Way
  | 'a' => read
  | 'm' => changed
  | _ => altered

end Way

/-- Which entry counts where there is a link. -/
inductive View where
  | found
  | own
  | beyond
  deriving DecidableEq, Repr

inductive Test where
  | constant (b : Bool)
  | name (m : Comparison) (pattern : Octets)
  | path (m : Comparison) (pattern : Octets)
  | target (m : Comparison) (pattern : Octets)
  | matches (m : Comparison) (r : Regex)
  | kind (view : View) (letters : List Char)
  | size (a : Amount) (unit : Nat)
  | empty
  | mode (bound : Bound) (bits : Nat)
  /-- The entry was used in a way after one time and before another. -/
  | used (way : Way) (after before : Option Int)
  | links (a : Amount)
  | number (a : Amount)
  | may (p : Permission)

def marked : Octets → Shell.Marked
  | [] => []
  | ['\\'] => [('\\', true)]
  | '\\' :: c :: rest => (c, true) :: marked rest
  | c :: rest => (c, false) :: marked rest

def accepts (m : Comparison) (pattern s : Octets) : Bool :=
  let rules : Shell.Pattern.Rules := ⟨false, m.casing⟩
  Shell.Pattern.accepts rules (Shell.Pattern.parse rules (marked (m.characters pattern)))
    (m.characters s)

def kindLetter (e : Entry) : Char :=
  match Directory.typeLetter e with
  | '-' => 'f'
  | letter => letter

def kindIn (t : FileTree) (v : Visit) (view : View) : Char :=
  match view, v.node.entry with
  | .own, e => kindLetter ((t.find v.location).getD e)
  | .beyond, .link target =>
      match t.lookup v.node.location.dropLast target true with
      | .ok (_, e) => kindLetter e
      | .error _ => 'l'
  | _, e => kindLetter e

def isEmpty (t : FileTree) (n : Node) : Bool :=
  match n.entry with
  | .directory => (t.names n.location).isEmpty
  | .file (.bytes data) => data.isEmpty
  | _ => false

def Test.holds (t : FileTree) (v : Visit) : Test → Bool
  | .constant b => b
  | .name m pattern => accepts m pattern v.name
  | .path m pattern => accepts m pattern v.file
  | .target m pattern =>
      match v.node.entry with
      | .link led => accepts m pattern (Octets.ofString led.text)
      | _ => false
  | .matches m r =>
      let subject : Regex.Subject := ⟨(m.characters v.file).toArray, ⟨m.casing, false⟩⟩
      (Regex.matchAt subject (.sequence r .textEnd) 0).isSome
  | .kind view letters => letters.contains (kindIn t v view)
  | .size a unit => a.fits ((Directory.sizeOf v.node + unit - 1) / unit)
  | .empty => isEmpty t v.node
  | .mode bound bits =>
      let found := v.node.stamp.mode &&& 0o7777
      match bound with
      | .exactly => found = bits
      | .less => found &&& bits = bits
      | .more => bits = 0 || found &&& bits != 0
  | .used way after before =>
      let time : Int := way.time v.node.stamp
      after.all (· < time) && before.all (time < ·)
  | .links a => a.fits (Directory.linkCount t v.node)
  | .number a => a.fits v.node.stamp.number
  | .may p => p.holds v.node.stamp

/-! ## Actions -/

/-- A part of a format: text, or something about the entry. -/
inductive Piece where
  | text (s : Octets)
  | stop
  | item (field : Format.Field) (letter detail : Char)

/-- A command in which a pair of braces stands for the path. -/
structure Command where
  index : Nat
  words : List Octets
  gathers : Bool
  inside : Bool
  asks : Bool

/-- What is done with an entry.  Output goes to a file if one is named. -/
inductive Action where
  | print (file : Option Octets) (ending : Char)
  | format (file : Option Octets) (pieces : List Piece)
  | list (file : Option Octets)
  | delete
  | prune
  | quit
  | run (command : Command)

def Action.isReport : Action → Bool
  | .prune | .quit => false
  | _ => true

inductive Condition where
  | test (t : Test)
  | act (a : Action)
  | negation (a : Condition)
  | both (a b : Condition)
  | either (a b : Condition)
  | second (a b : Condition)

def Condition.reports : Condition → Bool
  | .test _ => false
  | .act a => a.isReport
  | .negation a => a.reports
  | .both a b | .either a b | .second a b => a.reports || b.reports

end Seek

end Utility

end Conformance
