import Conformance.Computer.Utility.Files

/-!
# Old entries kept under other names

What stands at a place may be kept when something else comes there: under its name with a suffix, or
with the next number that no kept entry has.
-/

namespace Conformance

namespace Utility

namespace Transfer

open Files

/-- The names under which old entries are kept. -/
inductive Backup where
  | never
  | simple
  | numbered
  /-- Numbers for an entry that was kept under a number before, and the suffix for others. -/
  | existing
  deriving DecidableEq, Repr

def Backup.words : List (String × Backup) :=
  [("none", .never), ("off", .never), ("simple", .simple), ("never", .simple),
    ("existing", .existing), ("nil", .existing), ("numbered", .numbered), ("t", .numbered)]

structure Keeping where
  backup : Backup
  suffix : Octets
  deriving Repr

namespace Keeping

def nothing : Keeping := ⟨.never, ['~']⟩

def isOn (k : Keeping) : Bool := k.backup != .never

/-- What options ask for.  The environment has a say where they leave something open. -/
def ofOptions (c : Context) (program : String) (o : Options) : Except Octets Keeping := do
  if !o.hasAny "bS" then return nothing
  let suffix := ((o.value? 'S').or (c.environment.lookup "SIMPLE_BACKUP_SUFFIX".toList)).getD []
  let suffix := if suffix.isEmpty || suffix.contains '/' then ['~'] else suffix
  let fromOption? := ((o.values 'b').filter (!·.isEmpty)).getLast?
  let fromEnvironment? := (c.environment.lookup "VERSION_CONTROL".toList).filter (!·.isEmpty)
  match fromOption?.or fromEnvironment? with
  | none => return ⟨.existing, suffix⟩
  | some word =>
      match choice? Backup.words word with
      | some backup => return ⟨backup, suffix⟩
      | none =>
          let place := if fromOption?.isSome then "backup type" else "$VERSION_CONTROL"
          throw ((program ++ ": invalid argument ").toList ++ quoted c word ++ " for ".toList ++
            quoted c place.toList ++ tryHelp program)

def number? (name kept : Octets) : Option Nat :=
  let front := name ++ ".~".toList
  if !front.isPrefixOf kept then none
  else match (kept.drop front.length).reverse with
    | '~' :: digits =>
        if digits.getLast? == some '0' then none else readNat? digits.reverse
    | _ => none

def nameFor (k : Keeping) (t : FileTree) (loc : Location) (file : Octets) : Octets :=
  let name := Octets.ofString (loc.getLast?.getD "")
  let numbers := (t.names loc.dropLast).filterMap fun other =>
    number? name (Octets.ofString other)
  let numbered := k.backup = .numbered || (k.backup = .existing && !numbers.isEmpty)
  trimSlashes file ++ (if numbered then
    ".~".toList ++ Octets.ofNat (numbers.foldl max 0 + 1) ++ ['~'] else k.suffix)

def keep (k : Keeping) (c : Context) (t : FileTree) (loc : Location) (file : Octets) :
    Except IoError (FileTree × Octets) := do
  let kept := k.nameFor t loc file
  let spot ← placeOf c t kept
  if !mayChange t spot.location then throw (.os .accessDenied)
  return (t.move loc spot.location, kept)

def destroys (k : Keeping) (source target : Location) : Bool :=
  k.isOn && k.backup != .numbered && source.dropLast = target.dropLast &&
    source.getLast?.map Octets.ofString ==
      target.getLast?.map fun name => Octets.ofString name ++ k.suffix

end Keeping

def keptText (kept? : Option Octets) : Octets :=
  match kept? with
  | some kept => " (backup: ".toList ++ quotedName kept ++ [')']
  | none => []

end Transfer

end Utility

end Conformance
