import Conformance.Computer.Text.Octets
import Conformance.Errno

/-!
# Allowances

How much of each resource a process may use.  A process can lower what it may use, and raise it
again up to a bound; the bound itself it can only lower.
-/

namespace Conformance

/-- What a process may use now, and up to where it may raise that.  Nothing stands for no bound. -/
structure Allowance where
  soft : Option Nat
  hard : Option Nat
  deriving DecidableEq, Repr

namespace Allowance

/-- One number is at most another, where nothing is more than every number. -/
def isWithin : Option Nat → Option Nat → Bool
  | _, none => true
  | none, some _ => false
  | some a, some b => a ≤ b

def change (old new : Allowance) : Except Errno Allowance :=
  if !isWithin new.soft new.hard then .error .invalid
  else if !isWithin new.hard old.hard then .error .notPermitted
  else .ok new

end Allowance

/-- A resource: the letter that options name it by, what it is called, the unit that it is counted
in, and the size of the unit. -/
structure Resource where
  letter : Char
  title : String
  unit : String
  size : Nat
  first : Allowance
  deriving Repr

namespace Resource

def free : Allowance := ⟨none, none⟩

def fixed (n : Nat) : Allowance := ⟨some n, some n⟩

def all : List Resource :=
  [⟨'R', "real-time non-blocking time ", "microseconds", 1, free⟩,
    ⟨'c', "core file size", "blocks", 1024, ⟨some 0, none⟩⟩,
    ⟨'d', "data seg size", "kbytes", 1024, free⟩,
    ⟨'e', "scheduling priority", "", 1, fixed 0⟩,
    ⟨'f', "file size", "blocks", 1024, free⟩,
    ⟨'i', "pending signals", "", 1, fixed 127000⟩,
    ⟨'l', "max locked memory", "kbytes", 1024, fixed 8388608⟩,
    ⟨'m', "max memory size", "kbytes", 1024, free⟩,
    ⟨'n', "open files", "", 1, fixed 1048576⟩,
    ⟨'p', "pipe size", "512 bytes", 512, fixed 4096⟩,
    ⟨'q', "POSIX message queues", "bytes", 1, fixed 819200⟩,
    ⟨'r', "real-time priority", "", 1, fixed 0⟩,
    ⟨'s', "stack size", "kbytes", 1024, ⟨some 8388608, none⟩⟩,
    ⟨'t', "cpu time", "seconds", 1, free⟩,
    ⟨'u', "max user processes", "", 1, free⟩,
    ⟨'v', "virtual memory", "kbytes", 1024, free⟩,
    ⟨'x', "file locks", "", 1, free⟩]

end Resource

abbrev Allowances := List (Char × Allowance)

namespace Allowances

def get (a : Allowances) (r : Resource) : Allowance := (a.lookup r.letter).getD r.first

def put (a : Allowances) (r : Resource) (new : Allowance) : Allowances :=
  (r.letter, new) :: a.filter (·.1 != r.letter)

def fileSize? (a : Allowances) : Option Nat := (a.lookup 'f').bind Allowance.soft

end Allowances

end Conformance
