import Conformance.Computer.Text.Regex

/-!
# Matching lines

Lines that match one of several expressions, anywhere, as words of their own, or as a whole.
-/

namespace Conformance

namespace Utility

namespace Search

inductive Style where
  | fixed
  | regex (d : Regex.Dialect)
  | rich
  deriving DecidableEq, Repr

inductive Bounds where
  | anywhere
  | words
  | lines
  deriving DecidableEq, Repr

structure Matcher where
  regexes : List Regex
  rules : Regex.Rules
  bounds : Bounds
  wide : Bool

def literal (s : List Char) : Regex := s.foldr (fun c r => .sequence (.one c) r) .empty

/-- Puts what the dialects know in the place of some richer escapes. -/
def plainEscapes : List Char → List Char
  | '\\' :: 'd' :: rest => "[0-9]".toList ++ plainEscapes rest
  | '\\' :: 'D' :: rest => "[^0-9]".toList ++ plainEscapes rest
  | '\\' :: 't' :: rest => '\t' :: plainEscapes rest
  | '\\' :: 'h' :: rest => "[ \t]".toList ++ plainEscapes rest
  | '\\' :: c :: rest => '\\' :: c :: plainEscapes rest
  | '(' :: '?' :: ':' :: rest => '(' :: plainEscapes rest
  | c :: rest => c :: plainEscapes rest
  | [] => []

def regexOf (style : Style) (s : List Char) : Except String Regex :=
  let read (d : Regex.Dialect) (s : List Char) : Except String Regex :=
    if Regex.hasBareClass s then
      .error "character class syntax is [[:space:]], not [:space:]"
    else match Regex.parse d s with
      | some r => .ok r
      | none => .error (Regex.complaint d s)
  match style with
  | .fixed => .ok (literal s)
  | .regex d => read d s
  | .rich => read .extended (plainEscapes s)

/-- The places where matches that begin at a place may end, the furthest first. -/
def endsAt (t : Regex.Subject) (r : Regex) (i : Nat) : List Nat :=
  if r.refersBack then (Regex.matchAt t r i).toList.map Prod.fst else Regex.ends t r [i]

def standsAlone (t : Regex.Subject) (i j : Nat) : Bool := !t.isWordBefore i && !t.isWordAt j

def matchAt? (m : Matcher) (t : Regex.Subject) (i : Nat) : Option Nat :=
  let ends := m.regexes.flatMap fun r => endsAt t r i
  let fitting := match m.bounds with
    | .anywhere => ends
    | .words => ends.filter (standsAlone t i)
    | .lines => ends.filter fun j => i = 0 && j = t.size
  fitting.max?

/-- The first match that does not begin before a place; fuel bounds how many places are tried. -/
def find? (m : Matcher) (t : Regex.Subject) (i : Nat) : Nat → Option (Nat × Nat)
  | 0 => none
  | fuel + 1 =>
      match matchAt? m t i with
      | some j => some (i, j)
      | none => find? m t (i + 1) fuel

def subject (m : Matcher) (line : Octets) : Regex.Subject :=
  ⟨(if m.wide then Octets.toWide line else line).toArray, m.rules⟩

def selects (m : Matcher) (line : Octets) : Bool :=
  let t := subject m line
  (find? m t 0 (t.size + 1)).isSome

/-- All matches in a line that hold something, by where they begin and end. -/
def allMatches (m : Matcher) (t : Regex.Subject) (fuel i : Nat) : List (Nat × Nat) :=
  match fuel with
  | 0 => []
  | fuel + 1 =>
    match find? m t i (t.size + 1 - i) with
    | none => []
    | some (a, b) =>
        if a = b then allMatches m t fuel (a + 1) else (a, b) :: allMatches m t fuel b

def bytesOf (m : Matcher) (t : Regex.Subject) (i j : Nat) : Octets :=
  if m.wide then Octets.ofWide (t.part i j) else t.part i j

/-- The bytes are no text in an environment with characters of more than one byte. -/
def isGarbled (m : Matcher) (line : Octets) : Bool :=
  m.wide && (Octets.toWide line).any fun c =>
    c.toNat ≥ Octets.strayBase && c.toNat < Octets.strayBase + 256

end Search

end Utility

end Conformance
