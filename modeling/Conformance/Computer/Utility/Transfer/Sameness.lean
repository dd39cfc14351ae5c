import Conformance.Computer.Utility.Transfer.Backup

/-!
# Sources that are their targets

Two names may lead to one file, over links or because the file has several names.  What is there is
not to be lost by writing a file over itself.
-/

namespace Conformance

namespace Utility

namespace Transfer

open Files

/-- What the two names of a transfer have to do with each other. -/
inductive Sameness where
  | apart
  | done
  | clash
  deriving DecidableEq, Repr

structure Approach where
  moves : Bool
  hardLinks : Bool
  symbolicLinks : Bool
  removesFirst : Bool
  keepsOld : Bool
  keepsLinks : Bool

def nodeAt (c : Context) (t : FileTree) (file : Octets) (follows : Bool) : Except IoError Node := do
  let (loc, e) ← t.lookup c.directory (pathOf file) follows
  return (t.node? loc).getD ⟨loc, e, FileTree.topStamp⟩

def areOne (a b : Node) : Bool := a.stamp.number = b.stamp.number

def hasNames (t : FileTree) (n : Node) : Bool :=
  ((t.nodes.filter fun m => m.stamp.number = n.stamp.number).drop 1).isEmpty == false

/-- Compares the entries of two names when they, or what they lead to, are one file.  Here links are
seen as links. -/
def samenessOfNames (c : Context) (t : FileTree) (a : Approach) (source target : Octets)
    (src dst : Node) : Sameness :=
  let oneName := src.location = dst.location
  let isOne := areOne src dst
  let removed := a.moves || a.removesFirst
  if a.keepsOld then
    if isOne then (if oneName then .clash else .apart)
    else if !a.moves && !a.keepsLinks && src.entry.isLink && !dst.entry.isLink then .clash
    else .apart
  else if removed && dst.entry.isLink then .apart
  else if removed && isOne && hasNames t dst && !oneName then (if a.moves then .clash else .apart)
  else if !src.entry.isLink && !dst.entry.isLink && !isOne then .apart
  else if !src.entry.isLink && !dst.entry.isLink && a.hardLinks then .done
  else if a.moves && src.entry.isLink && hasNames t dst then .apart
  else if a.symbolicLinks && dst.entry.isLink then .apart
  else if !a.keepsLinks then .clash
  else match nodeAt c t source true, nodeAt c t target true with
    | .ok s, .ok d =>
        if !areOne s d then .apart
        else if a.hardLinks then (if dst.entry.isLink then .apart else .done)
        else .clash
    | _, _ => .apart

def sameness (c : Context) (t : FileTree) (a : Approach) (source target : Octets)
    (src dst : Node) : Sameness :=
  let isOne := areOne src dst
  if isOne && a.hardLinks then .done
  else if a.keepsLinks then
    if src.entry.isLink && dst.entry.isLink then
      if src.location = dst.location then .clash
      else if a.keepsOld || !isOne then .apart
      else if a.moves then .clash else .done
    else samenessOfNames c t a source target src dst
  else if !isOne then .apart
  else match nodeAt c t source false, nodeAt c t target false with
    | .ok s, .ok d =>
        if s.entry.isLink && d.entry.isLink && a.removesFirst then .apart
        else samenessOfNames c t a source target s d
    | _, _ => .apart

end Transfer

end Utility

end Conformance
