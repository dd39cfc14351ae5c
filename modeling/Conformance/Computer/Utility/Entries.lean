import Conformance.Computer.Utility.Files

/-!
# Single entries

The programs `link` and `unlink`, which make one entry and take one away, and `pathchk`, which looks
whether names could be used.
-/

namespace Conformance

namespace Utility

namespace Entries

open Files

def link (c : Context) : Answer :=
  withOptions c "link" 1 "" [] fun o =>
    match o.operands with
    | [] => missingOperand c "link"
    | [a] => .failure c 1 ("link: missing operand after ".toList ++ quoted c a ++ tryHelp "link")
    | [source, target] =>
        let result : Except IoError FileTree := do
          let (loc, e) ← c.tree.lookup c.directory (pathOf source) false
          if e.isDirectory then throw (.os .notPermitted)
          let spot ← placeOf c c.tree target
          if spot.found?.isSome then throw (.os .fileExists)
          if !mayChange c.tree spot.location then throw (.os .accessDenied)
          return c.tree.share loc spot.location
        match result with
        | .ok t => .ends ⟨[], 0, t⟩
        | .error e =>
            .failure c 1 ("link: cannot create link ".toList ++ quotedName target ++ " to ".toList ++
              quotedName source ++ ": ".toList ++ errorText e)
    | _ :: _ :: extra :: _ => extraOperand c "link" extra

def unlink (c : Context) : Answer :=
  withOptions c "unlink" 1 "" [] fun o =>
    match o.operands with
    | [] => missingOperand c "unlink"
    | [file] =>
        match c.tree.remove c.directory (pathOf file) with
        | .ok t => .ends ⟨[], 0, t⟩
        | .error e => .failure c 1 (about "unlink" "cannot unlink" file e)
    | _ :: extra :: _ => extraOperand c "unlink" extra

/-! ## Names that can be used -/

def isPortable (ch : Char) : Bool := ch.isAlphanum || ch == '.' || ch == '_' || ch == '-'

/-- How long names and paths may be everywhere. -/
def portableLimit : Nat := 255

def portableNameLimit : Nat := 14

/-- What is wrong with a path. -/
def flaw? (c : Context) (portable strict : Bool) (file : Octets) : Option Octets :=
  let parts := (splitAt '/' file).filter (!·.isEmpty)
  let limit (most size : Nat) (what shown : Octets) : Octets :=
    "limit ".toList ++ Octets.ofNat most ++ " exceeded by length ".toList ++ Octets.ofNat size ++
      what ++ quoted c shown
  if strict && parts.any fun p => p.head? == some '-' then
    some ("leading '-' in a component of file name ".toList ++ quoted c file)
  else if strict && file.isEmpty then some "empty file name".toList
  else if portable && file.isEmpty then some "empty file name".toList
  else match (if portable then file.find? fun ch => !isPortable ch && ch != '/' else none) with
  | some ch => some ("non-portable character ".toList ++ quoted c [ch] ++ " in file name ".toList ++
      quoted c file)
  | none =>
      if portable then
        if file.length > portableLimit then
          some (limit portableLimit file.length " of file name ".toList file)
        else (parts.find? fun p => p.length > portableNameLimit).map fun p =>
          limit portableNameLimit p.length " of file name component ".toList p
      else match c.tree.lookup c.directory (pathOf file) false with
      | .error e =>
          if e = .os .noEntry && !file.isEmpty then none
          else some ((if file.isEmpty then "''".toList else file) ++ ": ".toList ++ errorText e)
      | .ok _ => none

def pathchk (c : Context) : Answer :=
  withOptions c "pathchk" 1 "pP" [("portability", '\x03', .flag)] fun o =>
    if o.operands.isEmpty then missingOperand c "pathchk"
    else
      let flaws := o.operands.filterMap
        (flaw? c (o.hasAny "p\x03") (o.hasAny "P\x03"))
      .ends ⟨flaws.map fun s => .err ("pathchk: ".toList ++ s ++ ['\n']),
        if flaws.isEmpty then 0 else 1, c.tree⟩

end Entries

end Utility

end Conformance
