import Conformance.Computer.Text.Octets
import Conformance.ExitStatus

/-!
# Signals

The numbers and names of signals, and what a process does that neither catches nor ignores one.
-/

namespace Conformance

namespace Signal

def kill : Signal := ⟨9⟩
def brokenPipe : Signal := ⟨13⟩
def terminate : Signal := ⟨15⟩
def childEnded : Signal := ⟨17⟩
def resume : Signal := ⟨18⟩
def fileTooLong : Signal := ⟨25⟩

def names : List String :=
  ["HUP", "INT", "QUIT", "ILL", "TRAP", "ABRT", "BUS", "FPE", "KILL", "USR1", "SEGV", "USR2",
    "PIPE", "ALRM", "TERM", "STKFLT", "CHLD", "CONT", "STOP", "TSTP", "TTIN", "TTOU", "URG",
    "XCPU", "XFSZ", "VTALRM", "PROF", "WINCH", "IO", "PWR", "SYS"]

def texts : List String :=
  ["Hangup", "Interrupt", "Quit", "Illegal instruction", "Trace/breakpoint trap", "Aborted",
    "Bus error", "Floating point exception", "Killed", "User defined signal 1",
    "Segmentation fault", "User defined signal 2", "Broken pipe", "Alarm clock", "Terminated",
    "Stack fault", "Child exited", "Continued", "Stopped (signal)", "Stopped", "Stopped (tty input)",
    "Stopped (tty output)", "Urgent I/O condition", "CPU time limit exceeded",
    "File size limit exceeded", "Virtual timer expired", "Profiling timer expired",
    "Window changed", "I/O possible", "Power failure", "Bad system call"]

/-- What is said about a process that the signal has ended. -/
def text (s : Signal) : String :=
  if s.number = 0 then "Unknown signal 0"
  else texts.getD (s.number - 1)
    (if s.number < 34 then "Unknown signal " ++ toString s.number
      else "Real-time signal " ++ toString (s.number - 34))

inductive Effect where
  | ends
  | nothing
  | stops
  deriving DecidableEq, Repr

def effect (s : Signal) : Effect :=
  if s.number = 17 ∨ s.number = 18 ∨ s.number = 23 ∨ s.number = 28 then .nothing
  else if 19 ≤ s.number ∧ s.number ≤ 22 then .stops
  else .ends

/-- Kill and stop cannot be caught or ignored. -/
def isSovereign (s : Signal) : Bool := s.number = 9 || s.number = 19

/-- The number that digits spell, if there is a signal of that number. -/
def numbered? (s : Octets) : Option Signal :=
  if s.isEmpty || !s.all Char.isDigit then none
  else
    let n := s.foldl (fun n d => 10 * n + (d.toNat - '0'.toNat)) 0
    if n ≤ 64 then some ⟨n⟩ else none

/-- The signal of a name in capital letters without its common beginning. -/
def named? (s : Octets) : Option Signal :=
  match names.findIdx? (fun name => name.toList = s) with
  | some n => some ⟨n + 1⟩
  | none =>
      let behind (start : String) : Option Nat :=
        if start.toList.isPrefixOf s then (numbered? (s.drop start.length)).map number else none
      if s = "RTMIN".toList then some ⟨34⟩
      else if s = "RTMAX".toList then some ⟨64⟩
      else match behind "RTMIN+", behind "RTMAX-" with
        | some n, _ => some ⟨34 + n⟩
        | _, some n => some ⟨64 - n⟩
        | none, none =>
            if s = "POLL".toList then some ⟨29⟩
            else if s = "CLD".toList then some ⟨17⟩
            else if s = "IOT".toList then some ⟨6⟩ else none

/-- Reads a signal's number or its name, with or without its common beginning.  Zero is the signal
that is never sent, and the trap for the end of a shell. -/
def parse? (s : Octets) : Option Signal :=
  let upper := s.map Char.toUpper
  let bare := if "SIG".toList.isPrefixOf upper then upper.drop 3 else upper
  if bare = "EXIT".toList then some ⟨0⟩ else numbered? s <|> named? bare

/-- The same for a reader that does not know the common beginning, nor one of the names. -/
def parsePlain? (s : Octets) : Option Signal :=
  let upper := s.map Char.toUpper
  if upper = "EXIT".toList then some ⟨0⟩
  else if upper = "STKFLT".toList then none
  else numbered? s <|> (names.findIdx? (fun name => name.toList = upper)).map fun n => ⟨n + 1⟩

def name (s : Signal) : Octets :=
  if s.number = 0 then "EXIT".toList
  else match names[s.number - 1]? with
    | some name => name.toList
    | none =>
        if s.number = 34 then "RTMIN".toList
        else if s.number = 64 then "RTMAX".toList
        else if s.number < 50 then "RTMIN+".toList ++ (toString (s.number - 34)).toList
        else "RTMAX-".toList ++ (toString (64 - s.number)).toList

end Signal

def ExitStatus.toNat : ExitStatus → Nat
  | code n => n
  | signal s => 128 + s.number

end Conformance
