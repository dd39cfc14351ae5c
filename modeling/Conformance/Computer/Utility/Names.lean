import Conformance.Computer.Utility.Transfer

/-!
# Names of files

The programs that take paths apart and follow them to their ends: `basename`, `dirname`, `readlink`,
`realpath` and `pwd`.
-/

namespace Conformance

namespace Utility

namespace Names

open Files

def lineEnd (o : Options) : Octets := if o.has 'z' then ['\x00'] else ['\n']

/-- The last name of a path, without an ending unless it is the whole name. -/
def baseName (suffix file : Octets) : Octets :=
  let trimmed := trimSlashes file
  let name := if trimmed = ['/'] then ['/'] else lastName file
  let front := name.take (name.length - suffix.length)
  if suffix.isSuffixOf name && !front.isEmpty then front else name

def basename (c : Context) : Answer :=
  let long : List (String × Char × Arity) :=
    [("multiple", 'a', .flag), ("suffix", 's', .required), ("zero", 'z', .flag)]
  withLeadingOptions c "basename" 1 "as:z" long fun o =>
    let print (suffix : Octets) (files : List Octets) : Answer :=
      .ok c (files.flatMap fun file => baseName suffix file ++ lineEnd o)
    match o.operands with
    | [] => missingOperand c "basename"
    | files =>
        if o.hasAny "as" then print ((o.value? 's').getD []) files
        else match files with
          | [file] => print [] [file]
          | [file, suffix] => print suffix [file]
          | _ => extraOperand c "basename" (files.getD 2 [])

def directoryPart (file : Octets) : Octets :=
  let trimmed := trimSlashes file
  if trimmed = ['/'] then ['/']
  else match (trimmed.reverse.dropWhile (· != '/')).reverse with
    | [] => ['.']
    | up => trimSlashes up

def dirname (c : Context) : Answer :=
  withLeadingOptions c "dirname" 1 "z" [("zero", 'z', .flag)] fun o =>
    if o.operands.isEmpty then missingOperand c "dirname"
    else .ok c (o.operands.flatMap fun file => directoryPart file ++ lineEnd o)

/-- What has to be there of a path that is followed to its end. -/
inductive Presence where
  | all
  | allButLast
  | nothing
  deriving DecidableEq, Repr

/-- Where a path leads, with as much of it missing as is allowed. -/
def resolve (c : Context) (presence : Presence) (file : Octets) : Except IoError Location :=
  match presence with
  | .all => (c.tree.lookup c.directory (pathOf file) true).map Prod.fst
  | .allButLast =>
      match c.tree.locate c.directory (pathOf file) true with
      | .ok spot => .ok spot.location
      | .error e =>
          match c.tree.locate c.directory (pathOf (trimSlashes file)) true with
          | .ok ⟨loc, none⟩ => .ok loc
          | _ => .error e
  | .nothing =>
      if file.isEmpty then .error (.os .noEntry)
      else
        let start : Location := if file.head? == some '/' then [] else c.directory
        .ok ((splitAt '/' file).foldl (fun loc name =>
          if name.isEmpty || name = ['.'] then loc
          else if name = ['.', '.'] then loc.dropLast
          else match c.tree.locate loc (pathOf name) true with
            | .ok spot => spot.location
            | .error _ => loc ++ [Octets.toText name]) start)

def plainPlace (c : Context) (file : Octets) : Location :=
  let start : Location := if file.head? == some '/' then [] else c.directory
  (splitAt '/' file).foldl (fun loc name =>
    if name.isEmpty || name = ['.'] then loc
    else if name = ['.', '.'] then loc.dropLast
    else loc ++ [Octets.toText name]) start

def textOf (loc : Location) : Octets := Octets.ofString loc.toPath.text

def presenceOf (o : Options) (standard : Presence) : Presence :=
  match o.lastOf "fem" with
  | some 'e' => .all
  | some 'm' => .nothing
  | some _ => .allButLast
  | none => standard

def readlink (c : Context) : Answer :=
  let long : List (String × Char × Arity) :=
    [("canonicalize", 'f', .flag), ("canonicalize-existing", 'e', .flag),
      ("canonicalize-missing", 'm', .flag), ("no-newline", 'n', .flag), ("quiet", 'q', .flag),
      ("silent", 's', .flag), ("verbose", 'v', .flag), ("zero", 'z', .flag)]
  withOptions c "readlink" 1 "femnqsvz" long fun o =>
    if o.operands.isEmpty then missingOperand c "readlink"
    else
      let ending := if o.has 'n' && o.operands.length = 1 then [] else lineEnd o
      let warning : List Print :=
        if o.has 'n' && o.operands.length > 1 then
          [.err "readlink: ignoring --no-newline with multiple arguments\n".toList]
        else []
      let found := o.operands.map fun file =>
        let result : Except IoError Octets :=
          if o.hasAny "fem" then (resolve c (presenceOf o .allButLast) file).map textOf
          else match c.tree.lookup c.directory (pathOf file) false with
            | .ok (_, .link target) => .ok (Octets.ofString target.text)
            | .ok _ => .error (.os ⟨22⟩)
            | .error e => .error e
        (file, result)
      .ends ⟨warning ++ found.filterMap (fun (file, result) => match result with
          | .ok s => some (.out (s ++ ending))
          | .error e => if o.has 'v' then some (unreadable "readlink" file e) else none),
        if found.all fun f => f.2.isOk then 0 else 1, c.tree⟩

def realpath (c : Context) : Answer :=
  let long : List (String × Char × Arity) :=
    [("canonicalize-existing", 'e', .flag), ("canonicalize-missing", 'm', .flag),
      ("logical", 'L', .flag), ("physical", 'P', .flag), ("quiet", 'q', .flag),
      ("strip", 's', .flag), ("no-symlinks", 's', .flag), ("zero", 'z', .flag),
      ("relative-to", '\x03', .required), ("relative-base", '\x04', .required)]
  withOptions c "realpath" 1 "emLPqsz" long fun o =>
    let presence := presenceOf o .allButLast
    let place (file : Octets) : Except IoError Location :=
      let isMissing := presence = .all && !c.tree.isPresent c.directory (pathOf file)
      match o.lastOf "LsP" with
      | some 's' => if isMissing then .error (.os .noEntry) else .ok (plainPlace c file)
      | some 'L' =>
          if file.isEmpty then .error (.os .noEntry)
          else resolve c presence (textOf (plainPlace c file))
      | _ => resolve c presence file
    let reference (letter : Char) : Except Answer (Option Location) :=
      match o.value? letter with
      | none => .ok none
      | some file =>
          match place file with
          | .error e => .error (.ends ⟨[unreadable "realpath" file e], 1, c.tree⟩)
          | .ok loc =>
              if presence = .all && !(c.tree.find loc).any Entry.isDirectory then
                .error (.ends ⟨[unreadable "realpath" file (.os .notDirectory)], 1, c.tree⟩)
              else .ok (some loc)
    if o.operands.isEmpty then missingOperand c "realpath"
    else match reference '\x03', reference '\x04' with
      | .error answer, _ | _, .error answer => answer
      | .ok to?, .ok base? =>
          let shown (loc : Location) : Octets :=
            match to?, base? with
            | none, none => textOf loc
            | some dir, none => Transfer.relativePath dir loc
            | to?, some base =>
                let dir := to?.getD base
                if base.isPrefixOf loc && base.isPrefixOf dir then Transfer.relativePath dir loc
                else textOf loc
          let found := o.operands.map fun file => (file, place file)
          .ends ⟨found.filterMap (fun (file, result) => match result with
              | .ok loc => some (.out (shown loc ++ lineEnd o))
              | .error e => if o.has 'q' then none else some (unreadable "realpath" file e)),
            if found.all fun f => f.2.isOk then 0 else 1, c.tree⟩

/-- The working directory; with an option, under the name that the environment gives it. -/
def pwd (c : Context) : Answer :=
  let long : List (String × Char × Arity) := [("logical", 'L', .flag), ("physical", 'P', .flag)]
  withOptions c "pwd" 1 "LP" long fun o =>
    let here := textOf c.directory
    let named? := (c.environment.lookup "PWD".toList).filter fun s =>
      s.head? == some '/' &&
        (match c.tree.lookup [] (pathOf s) true with
          | .ok (loc, _) => loc = c.directory
          | .error _ => false)
    .ok c ((if o.lastOf "LP" == some 'L' then named?.getD here else here) ++ ['\n'])

end Names

end Utility

end Conformance
