import Conformance.Computer.Machine.Builtin.Basic

/-!
# Builtins for names

They give names to commands, and tell what a name stands for.
-/

namespace Conformance

namespace Shell

namespace Builtin

open Act

/-! ## The names of builtins -/


def commonNames : List String :=
  ["[", "alias", "bg", "cd", "command", "echo", "false", "fg", "getopts", "hash", "jobs", "kill",
    "printf", "pwd", "read", "test", "true", "type", "ulimit", "umask", "unalias", "wait"]

def extendedNames : List String :=
  ["bind", "builtin", "caller", "compgen", "complete", "compopt", "declare", "dirs", "disown",
    "enable", "fc", "help", "history", "let", "logout", "mapfile", "popd", "pushd", "readarray",
    "shopt", "source", "suspend", "typeset"]

def isKnown (extended : Bool) (name : Octets) : Bool :=
  (specialNames ++ commonNames ++ if extended then extendedNames else ["chdir"]).any
    (·.toList = name)

def isSpecial (name : Octets) : Bool := specialNames.any (·.toList = name)

end Builtin

def Interpreter.knows (i : Interpreter) (name : Octets) : Bool :=
  Builtin.isKnown i.vars.isExtended name && !i.disabled.contains name

namespace Builtin

open Act

/-! ## Aliases -/

def aliasText (extended : Bool) (x s : Octets) : Octets :=
  if extended then "alias ".toList ++ x ++ '=' :: quoteForReading s ++ ['\n']
  else x ++ '=' :: quote s ++ ['\n']

def isAliasName (x : Octets) : Bool :=
  !x.isEmpty && x.all fun c => !isMeta c && !"'\"\\$/=".toList.contains c && c != '`'

def aliasAll (c : Call) : List Octets → Act Unit
  | [] => return
  | a :: rest => do
      let i ← shell
      let extended := i.vars.isExtended
      -- An equality sign in front is part of the name.
      let first := a.take 1
      let (tail, value?) := splitAssignment (a.drop 1)
      let x := first ++ tail
      match (if extended && first = ['='] then none else value?) with
      | some s =>
          if extended && !isAliasName x then
            failWith c (quotedInMessage x ++ ": invalid alias name".toList) 1
          else modifyShell fun i => { i with
            aliases := if (i.aliases.lookup x).isSome then
                i.aliases.map fun old => if old.1 = x then (x, s) else old
              else i.aliases ++ [(x, s)] }
      | none =>
          match i.aliases.lookup a with
          | some s => print (aliasText extended a s)
          | none => do
              if extended then complain ("alias: ".toList ++ a ++ ": not found".toList)
              else note c (a ++ " not found".toList)
              setStatus 1
      aliasAll c rest

def aliasCommand (c : Call) : Act Unit := do
  let i ← shell
  let extended := i.vars.isExtended
  let args := if extended && c.args.head?.any (fun a => a = "-p".toList || a = "--".toList) then
    c.args.drop 1 else c.args
  if args.isEmpty then do
    let names := sorted (i.aliases.map Prod.fst)
    printWith c (names.flatMap fun x => aliasText extended x ((i.aliases.lookup x).getD [])) 0
  else do
    setStatus 0
    aliasAll c args

def unaliasCommand (c : Call) : Act Unit :=
  withLetters c "a" "a" "unalias [-a] name [name ...]" fun letters args => do
    let extended ← isExtended
    if letters.contains 'a' then do
      modifyShell fun i => { i with aliases := [] }
      setStatus 0
    else if extended && args.isEmpty then do
      note c "usage: unalias [-a] name [name ...]".toList
      setStatus 2
    else do
      setStatus 0
      for x in args do
        if ((← shell).aliases.lookup x).isNone then do
          if extended then complain ("unalias: ".toList ++ x ++ ": not found".toList)
          else note c (x ++ " not found".toList)
          setStatus 1
        else modifyShell fun i => { i with aliases := i.aliases.filter (·.1 != x) }

/-! ## Where programs are found -/

def searchPath : Act Octets := return ((← vars).value? "PATH".toList).getD Launch.lastSearch

/-- What is remembered about a program, unless other directories are searched since. -/
def hashed? (name : Octets) : Act (Option Hashed) := do
  let search ← searchPath
  return (← shell).hashed.find? fun h => h.name = name && h.search = search && !h.moved

def placeOf? (name : Octets) : Act (Option Octets) := do
  match ← hashed? name with
  | some h => return some h.path
  | none => return Launch.find? (← machine).tree (← process).directory (← searchPath) name

def forget (name : Octets) : Act Unit :=
  modifyShell fun i => { i with hashed := i.hashed.filter (·.name != name) }

/-- Remembers where a program is, which has been used so often. -/
def hashAt (name path : Octets) (hits : Nat) : Act Unit := do
  let h : Hashed := ⟨name, path, hits, ← searchPath, false⟩
  modifyShell fun i =>
    { i with
      hashed := if i.hashed.any (·.name = name) then
          i.hashed.map fun old => if old.name = name then h else old
        else i.hashed ++ [h] }

/-- Remembers where a program has been found, and that it has been used. -/
def remember (name : Octets) (used : Bool) : Act Unit := do
  if !name.contains '/' then
    match ← hashed? name, ← placeOf? name with
    | some h, _ => hashAt name h.path (if used then h.hits + 1 else h.hits)
    | none, some path => hashAt name path (if used then 1 else 0)
    | none, none => return

/-- The place of a name among those that the shell has found, which come in this order. -/
def bucket (extended : Bool) (x : Octets) : Nat :=
  if extended then Value.hash x % 256
  else x.foldl (fun n c => n + c.toNat) ((x.head?.map Char.toNat).getD 0 * 16) % 31

def showHashed (c : Call) (portable : Bool) : Act Unit := do
  let i ← shell
  let extended := i.vars.isExtended
  let search ← searchPath
  let valid := i.hashed.filter (·.search = search)
  if extended && valid.isEmpty then
    if portable then setStatus 0 else print "hash: hash table empty\n".toList
  else
    let ordered := (if extended then valid.reverse else valid).mergeSort fun a b =>
      bucket extended a.name ≤ bucket extended b.name
    let line (h : Hashed) : Octets :=
      if !extended then h.path ++ if h.moved then ['*'] else []
      else if portable then "builtin hash -p ".toList ++ h.path ++ ' ' :: h.name
      else Utility.padLeft 4 (Octets.ofNat h.hits) ++ '\t' :: h.path
    printWith c ((if extended && !portable then "hits\tcommand\n".toList else []) ++
      Octets.unlines (ordered.map line)) 0

/-- Tells where programs are, as far as that is known. -/
def showPlaces (portable : Bool) (names : List Octets) : Act Unit := do
  for x in names do
    match ← hashed? x with
    | none => do
        complain ("hash: ".toList ++ x ++ ": not found".toList)
        setStatus 1
    | some h => do
        remember x true
        print (if portable then "builtin hash -p ".toList ++ h.path ++ ' ' :: x ++ ['\n']
          else (if names.length > 1 then x ++ ['\t'] else []) ++ h.path ++ ['\n'])

/-- The letters, the path behind one of them, and the names. -/
def hashArguments : List Octets → Except Char (List Char × Option Octets × List Octets)
  | [] => .ok ([], none, [])
  | ['-', '-'] :: rest => .ok ([], none, rest)
  | ('-' :: c :: letters) :: rest =>
      let flags := (c :: letters).takeWhile (· != 'p')
      match flags.find? fun d => !"rdtl".toList.contains d, (c :: letters).drop flags.length, rest with
      | some d, _, _ => .error d
      | none, [], rest => (hashArguments rest).map fun (more, p, names) => (flags ++ more, p, names)
      | none, [_], path :: rest =>
          (hashArguments rest).map fun (more, p, names) => (flags ++ more, p.getD path, names)
      | none, [_], [] => .error 'p'
      | none, _ :: path, rest =>
          (hashArguments rest).map fun (more, p, names) => (flags ++ more, p.getD path, names)
  | args => .ok ([], none, args)

def hashAll (names : List Octets) : Act Unit := do
  for x in names do
    let i ← shell
    if i.vars.isExtended && x.contains '/' then pure ()
    else if i.knows x || (i.functions.lookup x).isSome then pure ()
    else do
      forget x
      match ← placeOf? x with
      | some _ => remember x false
      | none => do
          complain ("hash: ".toList ++ x ++ ": not found".toList)
          setStatus 1

def hashUsage : String := "hash: usage: hash [-lr] [-p pathname] [-dt] [name ...]\n"

def extendedHash (c : Call) : Act Unit := do
  match hashArguments c.args with
  | .error d => do
      complain ("hash: -".toList ++ [d] ++ (if d == 'p' then ": option requires an argument"
        else ": invalid option").toList)
      write 2 hashUsage.toList
      setStatus 2
  | .ok (letters, path?, names) => do
      let has (d : Char) : Bool := letters.contains d
      setStatus 0
      if names.isEmpty && (has 'd' || has 't') then
        failWith c ((if has 'd' then "-d" else "-t") ++ ": option requires an argument").toList 1
      else if names.isEmpty && !has 'r' then showHashed c (has 'l')
      else do
        if has 'r' then modifyShell fun i => { i with hashed := [] }
        if has 't' then showPlaces (has 'l') names
        else match path? with
        | some path => do
            let isDirectory := (← machine).tree.isDirectory (← process).directory
              (Utility.pathOf path)
            for x in names do
              if x.contains '/' then pure ()
              else if isDirectory then failWith c (path ++ ": Is a directory".toList) 1
              else hashAt x path 0
        | none =>
            if has 'd' then
              for x in names do
                if (← hashed? x).isSome then forget x
                else failWith c (x ++ ": not found".toList) 1
            else hashAll names

def hashCommand (c : Call) : Act Unit := do
  if ← isExtended then extendedHash c
  else withLetters c "r" "" "" fun letters args => do
    setStatus 0
    if letters.contains 'r' then modifyShell fun i => { i with hashed := [] }
    else if args.isEmpty then showHashed c false
    else hashAll args

/-! ## What names stand for -/

/-- What a name stands for. -/
inductive Meaning where
  | keyword
  | alias (text : Octets)
  | function
  | builtin
  | program (path : Octets) (known : Bool)
  deriving Repr

/-- All that a name could stand for, the first one first. -/
def meaningsOf (name : Octets) : Act (List Meaning) := do
  let i ← shell
  let extended := i.vars.isExtended
  let search ← searchPath
  let known := i.hashed.any fun h => h.name = name && h.search = search
  let path? ← placeOf? name
  -- The plain dialect does not look for a path that it is given.
  let isThere := ((← machine).tree.lookup (← process).directory (Utility.pathOf name) true).isOk
  let path? := if !extended && name.contains '/' then (if isThere then some name else none)
    else path?
  let aliased : List Meaning :=
    ((i.aliases.lookup name).filter fun _ => !extended || i.vars.isSet "expand_aliases").toList.map
      .alias
  let keyword : List Meaning :=
    if (reservedWords extended).any (·.toList = name) then [.keyword] else []
  return (if extended then aliased ++ keyword else keyword ++ aliased) ++
    (if (i.functions.lookup name).isSome then [.function] else []) ++
    (if i.knows name then [.builtin] else []) ++
    (path?.map fun path => Meaning.program path known).toList

def plainMeaning (long : Bool) (name : Octets) : Meaning → Octets
  | .keyword => if long then name ++ " is a shell keyword\n".toList else name ++ ['\n']
  | .alias s =>
      if long then name ++ " is an alias for ".toList ++ s ++ ['\n']
      else "alias ".toList ++ aliasText false name s
  | .function => if long then name ++ " is a shell function\n".toList else name ++ ['\n']
  | .builtin =>
      if long then
        name ++ (if isSpecial name then " is a special shell builtin\n"
          else " is a shell builtin\n").toList
      else name ++ ['\n']
  | .program path known =>
      if long then
        name ++ " is ".toList ++ (if known then "a tracked alias for ".toList else []) ++ path ++
          ['\n']
      else path ++ ['\n']

def extendedMeaning (long standard : Bool) (name : Octets) (hidesKnown : Bool) :
    Meaning → Octets
  | .keyword => if long then name ++ " is a shell keyword\n".toList else name ++ ['\n']
  | .alias s =>
      if long then name ++ " is aliased to `".toList ++ s ++ "'\n".toList
      else aliasText true name s
  | .function => if long then name ++ " is a function\n".toList else name ++ ['\n']
  | .builtin =>
      if !long then name ++ ['\n']
      else if standard && isSpecial name then name ++ " is a special shell builtin\n".toList
      else name ++ " is a shell builtin\n".toList
  | .program path known =>
      if long then
        if known && !hidesKnown then name ++ " is hashed (".toList ++ path ++ ")\n".toList
        else name ++ " is ".toList ++ path ++ ['\n']
      else path ++ ['\n']

def kindOf : Meaning → Octets
  | .keyword => "keyword".toList
  | .alias _ => "alias".toList
  | .function => "function".toList
  | .builtin => "builtin".toList
  | .program .. => "file".toList

/-- Tells in the plain dialect what a name stands for. -/
def describe (long : Bool) (name : Octets) : Act Nat := do
  match (← meaningsOf name).head? with
  | none => do
      if long then print (name ++ ": not found\n".toList)
      return 127
  | some meaning => do
      print (plainMeaning long name meaning)
      match meaning with
      | .program .. => remember name true
      | _ => pure ()
      return 0

def typeCommand (c : Call) : Act Unit := do
  if !(← isExtended) then do
    setStatus 0
    for name in c.args do
      let n ← describe true name
      if n != 0 then setStatus n
  else withLetters c "" "afptP" "type [-afptP] name [name ...]" fun letters names => do
    setStatus 0
    let i ← shell
    let standard := i.vars.isSet "posix"
    let asks (d : Char) : Bool := letters.contains d
    for name in names do
      let all ← meaningsOf name
      let chosen := all.filter fun meaning => match meaning with
        | .function => !asks 'f' && !asks 'P'
        | .program .. => true
        | _ => !asks 'P'
      let shown := if asks 'a' then chosen else chosen.take 1
      for meaning in shown do
        if asks 't' then print (kindOf meaning ++ ['\n'])
        else match meaning with
          | .program path _ =>
              if !asks 'a' && (← hashed? name).isSome then remember name true
              if asks 'p' || asks 'P' then print (path ++ ['\n'])
              else print (extendedMeaning true standard name (asks 'a') meaning)
          | .function =>
              if asks 'p' then pure ()
              else print (extendedMeaning true standard name false meaning ++ functionText i name)
          | meaning => if asks 'p' then pure () else print (extendedMeaning true standard name false meaning)
      if chosen.isEmpty then do
        if !asks 't' && !asks 'p' && !asks 'P' then
          complain ("type: ".toList ++ name ++ ": not found".toList)
        setStatus 1

/-- Tells what names stand for, as the command does that also runs commands. -/
def lookUp (long : Bool) (names : List Octets) : Act Unit := do
  if !(← isExtended) then
    match names with
    | [] => setStatus 0
    | name :: _ => setStatus (← describe long name)
  else do
    let mut any := false
    for name in names do
      match (← meaningsOf name).head? with
      | some meaning => do
          any := true
          let i ← shell
          let standard := i.vars.isSet "posix"
          let body := match meaning with
            | .function => if long then functionText i name else []
            | _ => []
          match meaning with
          | .program _ true => remember name true
          | _ => pure ()
          print (extendedMeaning long standard name false meaning ++ body)
      | none => if long then complain ("command: ".toList ++ name ++ ": not found".toList)
    setStatus (if any || names.isEmpty then 0 else 1)

end Builtin

end Shell

end Conformance
