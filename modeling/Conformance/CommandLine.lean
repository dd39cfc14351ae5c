import Conformance.Text.Blank
import Conformance.Path

/-!
# Command lines

A command line is a program and its first arguments, written with blanks between the words.  No
shell reads it, so quotes and patterns mean nothing.
-/

namespace Conformance

/-- A program with all its arguments, ready to be started. -/
structure Command where
  program : String
  args : List String
  deriving DecidableEq, Repr

structure CommandLine where
  program : String
  args : List String
  deriving DecidableEq, Repr

/-- Why a text is no command line. -/
inductive CommandLineError where
  | empty
  deriving DecidableEq, Repr

def CommandLineError.message : CommandLineError → String
  | empty => "command must not be empty"

namespace CommandLine

def words (c : CommandLine) : List String := c.program :: c.args

protected def toString (c : CommandLine) : String := String.intercalate " " c.words

instance : ToString CommandLine := ⟨CommandLine.toString⟩

/-- Reads the words of a text. -/
def parse (text : String) : Except CommandLineError CommandLine :=
  match (Text.words text.toList).map String.ofList with
  | [] => .error .empty
  | program :: args => .ok ⟨program, args⟩

def toCommand (c : CommandLine) : Command := ⟨c.program, c.args⟩

/-- The command that gets a path as its one further argument. -/
def toCommandOn (c : CommandLine) (path : Path) : Command :=
  ⟨c.program, c.args ++ [path.text]⟩

end CommandLine

namespace Command

def hasNul (word : String) : Bool := word.toList.contains '\x00'

/-- A command with a NUL in one of its words cannot be handed to the operating system. -/
def isPassable (c : Command) : Bool :=
  !(c.program :: c.args).any hasNul

/-- A word as it stands in the command; one that cannot be passed on is replaced. -/
def shownWord (word : String) : String :=
  if hasNul word then "<string-with-nul>" else word

end Command

end Conformance
