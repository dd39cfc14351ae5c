/-!
# Exit statuses

A process ends with a code of its own or by a signal.
-/

namespace Conformance

structure Signal where
  number : Nat
  deriving DecidableEq, Repr

inductive ExitStatus where
  | code (n : Nat)
  | signal (s : Signal)
  deriving DecidableEq, Repr

def ExitStatus.code? : ExitStatus → Option Nat
  | code n => some n
  | signal _ => none

end Conformance
