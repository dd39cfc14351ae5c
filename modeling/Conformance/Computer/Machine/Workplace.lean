import Conformance.Computer.Machine.Host
import Conformance.Program

/-!
# Working on the machine

The program at work on a machine, where the commands of the stages run.
-/

namespace Conformance

namespace Machine

/-- The environment of commands: the standard one, and over it what the program was given. -/
def environmentOf (env : Environment) : List (Octets × Octets) :=
  let given := env.map fun (x, s) => (Octets.ofString x, Octets.ofString s)
  let standard := [("PATH".toList, Launch.standardSearch), ("HOME".toList, "/root".toList),
    ("LANG".toList, "C.UTF-8".toList)]
  given ++ standard.filter fun (x, _) => (given.lookup x).isNone

/-- A directory of the machine as the place to work in. -/
def workplace (dir : Location) (env : Environment) (isTerminal : Bool) :
    Workplace (Session Machine) :=
  .ofHost (host dir (environmentOf env)) Machine.tree dir isTerminal

/-- Lets time go by. -/
def pass (m : Machine) (span : Span) : Machine := m.runUntil (m.clock + span.micros)

end Machine

end Conformance
