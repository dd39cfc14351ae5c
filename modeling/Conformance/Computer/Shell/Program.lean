import Conformance.Computer.Text.Octets

/-!
# Shell programs

The commands of the shell and the words that they are written in.  A word is a sequence of parts; a
part remembers whether it was quoted, because quoted text is neither split nor matched against file
names.  There are two dialects: the plain one of POSIX, and one that adds to it arrays, conditions
in double brackets and arithmetic commands, among others.
-/

namespace Conformance

namespace Shell

inductive Dialect where
  | plain
  | extended
  deriving DecidableEq, Repr

/-- What is done about a missing value, or about one that is there. -/
inductive Fallback where
  | default
  | assign
  | require
  | alternative
  deriving DecidableEq, Repr

/-- Which places of a value a pattern replaces. -/
inductive Reach where
  | first
  | every
  | front
  | back
  deriving DecidableEq, Repr

inductive RedirectionKind where
  | read
  | write
  | overwrite
  | append
  | readWrite
  | duplicateInput
  | duplicateOutput
  | writeBoth
  | appendBoth
  | here
  | hereWord
  deriving DecidableEq, Repr

/-- Where a command stands in a script: the number of its line, the text from its first character on,
and the text behind it. -/
structure Origin where
  line : Nat
  text : Octets
  behind : Octets
  deriving DecidableEq, Repr

def Origin.written (o : Origin) : Octets := o.text.take (o.text.length - o.behind.length)

/-- How the commands of a choice go on behind an arm. -/
inductive ArmEnd where
  | leaves
  | runsNext
  | testsNext
  deriving DecidableEq, Repr

mutual

inductive Part where
  | text (s : Octets) (quoted : Bool)
  | parameter (name : Octets) (index : Index) (indirect : Bool) (operation : Operation)
      (quoted : Bool)
  | output (script : Command) (quoted : Bool)
  | arithmetic (expression : List Part) (quoted : Bool)
  | passage (script : Command) (writes : Bool)
  | items (l : List Item)

inductive Index where
  | whole
  | every (joined : Bool)
  | at (word : List Part)

inductive Item where
  | mk (index : Option (List Part)) (appends : Bool) (value : List Part)

inductive Operation where
  | plain
  /-- The same for a name without braces around it, which braces behind it may make longer. -/
  | bare
  | length
  | fallback (f : Fallback) (orEmpty : Bool) (word : List Part)
  | trim (back longest : Bool) (pattern : List Part)
  | replace (reach : Reach) (pattern : List Part) (new : List Part)
  | slice (offset : List Part) (length : Option (List Part))
  | recase (mark : Char) (all : Bool) (pattern : List Part)
  | transform (letter : Char)
  | keys
  | names (joined : Bool)
  | invalid

inductive Redirection where
  | mk (descriptor : Nat) (kind : RedirectionKind) (target : List Part)
  | named (holder : Octets) (kind : RedirectionKind) (target : List Part)

inductive Assignment where
  | mk (name : Octets) (index : Option (List Part)) (appends : Bool) (value : List Part)

inductive Condition where
  | filled (word : List Part)
  | unary (operator : Octets) (word : List Part)
  | binary (operator : Octets) (a b : List Part)
  | not (c : Condition)
  | grouped (c : Condition)
  | both (a b : Condition)
  | either (a b : Condition)

inductive Command where
  | nothing
  | simple (origin : Origin) (assignments : List Assignment) (words : List (List Part))
      (redirections : List Redirection)
  | pipeline (commands : List Command)
  | negation (c : Command)
  | both (first second : Command)
  | either (first second : Command)
  | sequence (first second : Command)
  | background (origin : Origin) (c : Command)
  | coprocess (name : Octets) (c : Command)
  | subshell (c : Command)
  | redirected (c : Command) (redirections : List Redirection)
  | conditional (condition yes no : Command)
  | loop (outcome : Bool) (condition body : Command)
  | each (name : Octets) (words : Option (List (List Part))) (body : Command)
  | menu (name : Octets) (words : Option (List (List Part))) (body : Command)
  /-- Runs the body as long as an expression is not zero, with one expression before the first turn
  and one behind each. -/
  | counting (start test step : List Part) (body : Command)
  | choice (word : List Part) (arms : List (List (List Part) × Command × ArmEnd))
  | definition (origin : Origin) (name : Octets) (body : Command)
  | evaluation (expression : List Part)
  | examination (condition : Condition)
  /-- Tells how long a command took, in a form that all shells share if `portable`. -/
  | timed (portable : Bool) (c : Command)

end

abbrev Word := List Part

instance : Inhabited Command := ⟨.nothing⟩

namespace Redirection

def descriptor : Redirection → Nat
  | mk descriptor _ _ => descriptor
  | named .. => 0

def holder? : Redirection → Option Octets
  | mk .. => none
  | named x _ _ => some x

def kind : Redirection → RedirectionKind
  | mk _ kind _ | named _ kind _ => kind

def target : Redirection → Word
  | mk _ _ target | named _ _ target => target

end Redirection

abbrev Arm := List Word × Command × ArmEnd

end Shell

end Conformance
