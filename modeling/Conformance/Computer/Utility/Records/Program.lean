import Conformance.Computer.Text.Regex

/-!
# Programs over records

The language of `awk`: rules that say which records of the input they are for and what is done with
them.
-/

namespace Conformance

namespace Utility

namespace Records

inductive Operator where
  | add
  | subtract
  | multiply
  | divide
  | remainder
  | power
  deriving DecidableEq, Repr

inductive Comparison where
  | less
  | atMost
  | equal
  | unequal
  | atLeast
  | greater
  deriving DecidableEq, Repr

/-- The functions that every program has. -/
inductive Builtin where
  | length
  | substring
  | index
  | split
  | replace (everywhere : Bool)
  | locate
  | format
  | lower
  | upper
  | sine
  | cosine
  | arctangent
  | exponential
  | logarithm
  | root
  | whole
  | random
  | seed
  | system
  | close
  | flush
  | time
  | date
  deriving DecidableEq, Repr

def Builtin.table : List (String × Builtin) :=
  [("length", .length), ("substr", .substring), ("index", .index), ("split", .split),
    ("sub", .replace false), ("gsub", .replace true), ("match", .locate), ("sprintf", .format),
    ("tolower", .lower), ("toupper", .upper), ("sin", .sine), ("cos", .cosine),
    ("atan2", .arctangent), ("exp", .exponential), ("log", .logarithm), ("sqrt", .root),
    ("int", .whole), ("rand", .random), ("srand", .seed), ("system", .system), ("close", .close),
    ("fflush", .flush), ("systime", .time), ("strftime", .date)]

mutual

inductive Expr where
  | number (x : Float)
  | text (s : Octets)
  /-- A regular expression; as a value it tells whether the record matches. -/
  | regex (r : Regex)
  | place (p : Place)
  | assign (op : Option Operator) (p : Place) (e : Expr)
  | step (before : Bool) (up : Bool) (p : Place)
  | choose (c a b : Expr)
  | or (a b : Expr)
  | and (a b : Expr)
  | not (e : Expr)
  | negate (e : Expr)
  | plus (e : Expr)
  | within (index : List Expr) (table : Octets)
  | agrees (negated : Bool) (a b : Expr)
  | compare (c : Comparison) (a b : Expr)
  | join (a b : Expr)
  | arithmetic (op : Operator) (a b : Expr)
  | builtin (f : Builtin) (args : List Expr)
  | call (name : Octets) (args : List Expr)
  | read (source : Source) (target : Option Place)
  | grouped (e : Expr)

/-- What can be given a value. -/
inductive Place where
  | variable (name : Octets)
  | field (e : Expr)
  | element (table : Octets) (index : List Expr)

/-- Where a record is read from. -/
inductive Source where
  | input
  | file (e : Expr)
  | command (e : Expr)

end

instance : Inhabited Expr := ⟨.text []⟩

inductive Target where
  | output
  | file (appends : Bool) (e : Expr)
  | command (e : Expr)

inductive Statement where
  | expression (e : Expr)
  | print (args : List Expr) (target : Target)
  | format (args : List Expr) (target : Target)
  | block (body : List Statement)
  | choice (c : Expr) (yes no : Statement)
  | loop (c : Option Expr) (after : Statement) (body : Statement)
  | again (body : Statement) (c : Expr)
  | each (name table : Octets) (body : Statement)
  | delete (table : Octets) (index : Option (List Expr))
  | next
  | nextFile
  | exit (e : Option Expr)
  | break
  | continue
  | return (e : Option Expr)

namespace Statement

def nothing : Statement := .block []

end Statement

/-- When a rule is carried out. -/
inductive Trigger where
  | always
  | when (e : Expr)
  | between (a b : Expr)

structure Rule where
  trigger : Trigger
  body : Option Statement

structure Function where
  name : Octets
  parameters : List Octets
  body : Statement

structure Program where
  beginnings : List Statement
  rules : List Rule
  endings : List Statement
  functions : List Function

end Records

end Utility

end Conformance
