import Conformance.Computer.Machine.Channels
import Conformance.Computer.Utility.Catalogue

/-!
# Starting programs

A program is found by its path, or by its name in the directories of the search path.  A file of
text names its interpreter in the first line; without that it cannot be run.
-/

namespace Conformance

namespace Launch

def standardSearch : Octets :=
  "/usr/local/sbin:/usr/local/bin:/usr/sbin:/usr/bin:/sbin:/bin".toList

/-- The directories in which programs are looked for where nothing is said about it. -/
def lastSearch : Octets := "/bin:/usr/bin".toList

def shells : List (String × Shell.Dialect) :=
  [("sh", .plain), ("dash", .plain), ("bash", .extended)]

def standardTree : FileTree :=
  let put (t : FileTree) (loc : Location) (e : Entry) : FileTree :=
    (t.insertParents loc).insert loc e
  let names := shells.map Prod.fst ++ Utility.catalogue.map Prod.fst
  let programs := names.foldl (fun t name =>
    put t ["usr", "bin", name] (.file (.program name))) FileTree.empty
  let devices := [("zero", Content.zeros), ("urandom", .zeros), ("random", .zeros),
    ("null", .null), ("full", .full)]
  let withDevices := devices.foldl (fun t (name, content) =>
    put t ["dev", name] (.file content)) (put programs ["bin"] (.link ⟨"usr/bin"⟩))
  let links := [("stdin", "/proc/self/fd/0"), ("stdout", "/proc/self/fd/1"),
    ("stderr", "/proc/self/fd/2"), ("fd", "/proc/self/fd")]
  let withLinks := links.foldl (fun t (name, target) => put t ["dev", name] (.link ⟨target⟩))
    withDevices
  let dirs : List Location := [["tmp"], ["root"], ["etc"], ["home"], ["usr", "local", "bin"], ["usr", "sbin"],
    ["var", "tmp"], ["proc"]]
  let withDirs := dirs.foldl (fun t loc => put t loc .directory) withLinks
  put withDirs Machine.lastNumberPlace (.file (Machine.numberContent 4000))

/-! ## Interpreters -/

def headSize : Nat := 256

/-- The interpreter and its one argument in the first line of a script.  A line that does not end in
the part of the file that is looked at is good only if the interpreter's name ends there. -/
def interpreterOf? (data : Octets) : Option (Octets × List Octets) :=
  let head := data.take headSize
  let whole := head ++ List.replicate (headSize - head.length) '\x00'
  let isBlank (c : Char) : Bool := c == ' ' || c == '\t'
  match whole with
  | '#' :: '!' :: rest =>
      let line := rest.takeWhile fun c => c != '\n' && c != '\x00'
      let text? : Option Octets :=
        if (rest.drop line.length).head? == some '\n' then some line
        else
          let name := rest.dropWhile isBlank
          if name.any (fun c => isBlank c || c == '\x00') then some rest.dropLast else none
      text?.bind fun text =>
        let text := ((text.reverse.dropWhile isBlank).reverse).dropWhile isBlank
        let program := text.takeWhile fun c => !isBlank c && c != '\x00'
        let behind := text.drop program.length
        let arg := if behind.head? == some '\x00' then []
          else (behind.dropWhile isBlank).takeWhile (· != '\x00')
        if text.isEmpty then none
        else some (program, if behind.isEmpty || behind.head? == some '\x00' then [] else [arg])
  | _ => none

def interpreterLimit : Nat := 5

/-- The installed program that runs the file at a path, with its arguments. -/
def imageAt (t : FileTree) (dir : Location) (fuel : Nat) (path : Octets) (argv : List Octets) :
    Except IoError (String × List Octets) := do
  match ← t.lookup dir (Utility.pathOf path) true with
  | (loc, .file content) =>
      if !(t.stamp? loc).any fun s => s.mode &&& 0o111 != 0 then throw (.os .accessDenied)
      match content with
      | .program name => return (name, argv)
      | .bytes data =>
          match interpreterOf? (Octets.ofBytes data), fuel with
          | none, _ => throw (.os .notExecutable)
          | some _, 0 => throw (.os .linkLoop)
          | some ([], _), _ => throw (.os .accessDenied)
          | some (program, arg), fuel + 1 =>
              imageAt t dir fuel program (program :: arg ++ path :: argv.drop 1)
      | .null | .zeros | .full | .fifo => throw (.os .accessDenied)
  | _ => throw (.os .accessDenied)

/-- Looks for a name in directories.  That it may not be executed somewhere counts only if it is
found nowhere else. -/
def searchIn (t : FileTree) (dir : Location) (name : Octets) (argv : List Octets) :
    List Octets → Errno → Except IoError (String × List Octets)
  | [], e => .error (.os e)
  | place :: rest, e =>
      let path := if place.isEmpty then name else place ++ '/' :: name
      match imageAt t dir interpreterLimit path argv with
      | .error (.os f) =>
          if f = .accessDenied then searchIn t dir name argv rest f
          else if f = .noEntry || f = .notDirectory then searchIn t dir name argv rest e
          else .error (.os f)
      | image => image

/-- The installed program that a command starts, with its arguments.  The place may be known where
it has been found before. -/
def image (t : FileTree) (dir : Location) (search : Octets) (known? : Option Octets)
    (argv : List Octets) : Except IoError (String × List Octets) :=
  let name := argv.headD []
  if let some path := known? then imageAt t dir interpreterLimit path argv
  else if name.isEmpty then .error (.os .noEntry)
  else if name.contains '/' then imageAt t dir interpreterLimit name argv
  else searchIn t dir name argv (Utility.splitAt ':' search) .noEntry

def searchFrom (search name path : Octets) : Octets :=
  Utility.joinWith [':'] ((Utility.splitAt ':' search).dropWhile fun place =>
    (if place.isEmpty then "./".toList ++ name else place ++ '/' :: name) != path)

def find? (t : FileTree) (dir : Location) (search name : Octets) : Option Octets :=
  let isRunnable (path : Octets) : Bool :=
    match t.lookup dir (Utility.pathOf path) true with
    | .ok (loc, .file _) => (t.stamp? loc).any fun s => s.mode &&& 0o111 != 0
    | _ => false
  if name.contains '/' then if isRunnable name then some name else none
  else ((Utility.splitAt ':' search).map fun place =>
    if place.isEmpty then "./".toList ++ name else place ++ '/' :: name).find? isRunnable

/-- The program for a command where a file of text without an interpreter is read by a shell. -/
def imageOrScript (t : FileTree) (dir : Location) (search : Octets) (known? : Option Octets)
    (shell : String) (argv : List Octets) : Except IoError (String × List Octets) :=
  match image t dir search known? argv with
  | .error (.os e) =>
      if e != .notExecutable then .error (.os e)
      else match known?.orElse fun _ => find? t dir search (argv.headD []) with
        | some path => .ok (shell, shell.toList :: path :: argv.drop 1)
        | none => .error (.os e)
  | image => image

/-- How long a text may be that a program is given, with the mark of its end. -/
def longestText : Nat := 131072

/-- How much the texts may take up together that a program is given. -/
def allTexts : Nat := 2097152

/-- Refuses a program that is found but is given too much. -/
def withRoom (argv : List Octets) (environment : List (Octets × Octets))
    (image : Except IoError (String × List Octets)) : Except IoError (String × List Octets) := do
  let found ← image
  let sizes := argv.map (·.length + 1) ++ environment.map fun (x, s) => x.length + s.length + 2
  if sizes.any (longestText < ·) || allTexts < sizes.foldl (fun n k => n + k + 8) 0 then
    throw (.os .tooMuch)
  return found

/-! ## Shells -/

/-- What the arguments of a shell ask for: a script in a file, in an argument, or in the input. -/
inductive ScriptSource where
  | file (name : Octets) (args : List Octets)
  | argument (script : Octets) (args : List Octets)
  | input (args : List Octets)
  | bad (message : Octets)

def optionNames (dialect : Shell.Dialect) : List (String × Char) :=
  if dialect == .plain then
    [("errexit", 'e'), ("noglob", 'f'), ("ignoreeof", 'I'), ("interactive", 'i'), ("monitor", 'm'),
      ("noexec", 'n'), ("stdin", 's'), ("xtrace", 'x'), ("verbose", 'v'), ("vi", 'V'),
      ("emacs", 'E'), ("noclobber", 'C'), ("allexport", 'a'), ("notify", 'b'), ("nounset", 'u')]
  else
    [("allexport", 'a'), ("braceexpand", 'B'), ("errexit", 'e'), ("errtrace", 'E'),
      ("functrace", 'T'), ("hashall", 'h'), ("histexpand", 'H'), ("keyword", 'k'),
      ("monitor", 'm'), ("noclobber", 'C'), ("noexec", 'n'), ("noglob", 'f'), ("notify", 'b'),
      ("nounset", 'u'), ("onecmd", 't'), ("physical", 'P'), ("privileged", 'p'),
      ("verbose", 'v'), ("xtrace", 'x')]

def optionLetter? (dialect : Shell.Dialect) (name : Octets) : Option Char :=
  ((optionNames dialect).find? fun (n, _) => n.toList = name).map Prod.snd

def isOptionLetter (dialect : Shell.Dialect) (c : Char) : Bool :=
  if dialect == .plain then "aCbefhImnpsuVvxEi".toList.contains c && c != 'h' && c != 'p'
  else "abefhkmnptuvxBCEHPTi".toList.contains c

/-- What is set when a shell starts. -/
structure Start where
  options : List Char
  settings : List String
  unset : List Char

def wordOptions : List String :=
  ["emacs", "history", "ignoreeof", "interactive-comments", "nolog", "pipefail", "posix", "vi"]

def shellArguments (dialect : Shell.Dialect) (s : Start) : List Octets → Start × ScriptSource
  | [] => (s, source s [])
  | ['-', '-'] :: rest | ['-'] :: rest => (s, source s rest)
  | ['-', 'o'] :: name :: rest => named true name rest
  | ['+', 'o'] :: name :: rest => named false name rest
  | ('-' :: '-' :: word) :: rest =>
      if dialect == .plain then (s, .bad ("Illegal option --".toList))
      else if word = "version".toList then (s, .argument ("echo 'GNU bash, version " ++
        "5.2.15(1)-release (x86_64-pc-linux-gnu)'").toList [])
      else if word = "posix".toList then
        shellArguments dialect { s with settings := "posix" :: s.settings } rest
      else if word = "verbose".toList then
        shellArguments dialect { s with options := s.options ++ ['v'] } rest
      else if ["norc", "noprofile", "login", "noediting"].any
          (·.toList = word) then shellArguments dialect s rest
      else (s, .bad ("--".toList ++ word ++ ": invalid option".toList))
  | ('-' :: c :: letters) :: rest =>
      if letters.getLast? == some 'o' then
        match rest with
        | name :: rest =>
            let s := { s with options := s.options ++ (c :: letters).dropLast }
            match nameLetter name with
            | some letter => shellArguments dialect { s with options := s.options ++ [letter] } rest
            | none =>
                if wordOptions.any (·.toList = name) && dialect == .extended then
                  shellArguments dialect
                    { s with settings := String.ofList name :: s.settings } rest
                else (s, .bad (badName name))
        | [] => (s, source s [])
      else match (c :: letters).find? fun d => d != 'c' && d != 's' && d != 'l' && d != 'O' &&
          !isOptionLetter dialect d with
        | some d => (s, .bad (if dialect == .plain then "Illegal option -".toList ++ [d]
            else '-' :: d :: ": invalid option".toList))
        | none =>
            if dialect == .extended && (c :: letters) = ['O'] then
              match rest with
              | name :: rest =>
                  shellArguments dialect { s with settings := String.ofList name :: s.settings } rest
              | [] => (s, source s [])
            else shellArguments dialect { s with options := s.options ++ c :: letters } rest
  | ('+' :: c :: letters) :: rest =>
      shellArguments dialect { s with unset := s.unset ++ c :: letters } rest
  | args => (s, source s args)
where
  nameLetter (name : Octets) : Option Char :=
    optionLetter? dialect name
  badName (name : Octets) : Octets :=
    if dialect == .plain then "Illegal option -o ".toList ++ name
    else name ++ ": invalid option name".toList
  named (on : Bool) (name : Octets) (rest : List Octets) : Start × ScriptSource :=
    match nameLetter name with
    | some letter =>
        shellArguments dialect (if on then { s with options := s.options ++ [letter] }
          else { s with unset := s.unset ++ [letter] }) rest
    | none =>
        if wordOptions.any (·.toList = name) && dialect == .extended then
          shellArguments dialect (if on then { s with settings := String.ofList name :: s.settings }
            else s) rest
        else (s, .bad (badName name))
  source (s : Start) (args : List Octets) : ScriptSource :=
    match s.options.contains 'c', s.options.contains 's', args with
    | true, _, script :: args => .argument script args
    | true, _, [] => .bad (if dialect == .plain then "-c requires an argument".toList
        else "-c: option requires an argument".toList)
    | false, false, file :: args => .file file args
    | _, _, args => .input args

def scriptFrom (dialect : Shell.Dialect) (text : Octets) : Shell.Scan :=
  Shell.Layout.scanFor dialect text

def nameOfPlace (t : FileTree) (dir : Location) (environment : List (Octets × Octets)) : Octets :=
  let named? := (environment.lookup "PWD".toList).filter fun s =>
    s.head? == some '/' &&
      (match t.lookup [] (Utility.pathOf s) true with
        | .ok (loc, _) => loc = dir
        | .error _ => false)
  named?.getD (Octets.ofString dir.toPath.text)

def firstVariables (t : FileTree) (dialect : Shell.Dialect) (dir : Location) (parent : Nat)
    (environment : List (Octets × Octets)) : List (Octets × Shell.Variable) :=
  let entry (s : Octets) (exported : Bool) : Shell.Variable :=
    { Shell.Variable.blank with value := some (.text s), exported }
  let inherited := (environment.filter fun (x, _) => Shell.isName x && x != "IFS".toList).foldl
    (fun l (x, s) => if l.any (fun e : Octets × Shell.Variable => e.1 = x) then l
      else l ++ [(x, entry s true)]) []
  let put (l : List (Octets × Shell.Variable)) (x : String) (s : Octets) (exported : Bool) :
      List (Octets × Shell.Variable) :=
    let wasExported := l.any fun e => e.1 = x.toList && e.2.exported
    l.filter (fun e => e.1 != x.toList) ++ [(x.toList, entry s (exported || wasExported))]
  let common := put (put (put (put inherited "IFS" " \t\n".toList false) "OPTIND" ['1'] false)
    "PPID" (Octets.ofNat parent) false) "PWD" (nameOfPlace t dir environment) true
  if dialect == .plain then
    let l := [("PS1", "# "), ("PS2", "> "), ("PS4", "+ ")].foldl (fun l (x, s) =>
      if (environment.lookup x.toList).isSome then l else put l x s.toList false) common
    if (environment.lookup "PATH".toList).isSome then l else put l "PATH" standardSearch false
  else
    let level := ((environment.lookup "SHLVL".toList).bind Utility.readNat?).getD 0 + 1
    let texts : List (String × String) :=
      [("BASH", "/bin/bash"), ("BASH_VERSION", "5.2.15(1)-release"), ("HOSTTYPE", "x86_64"),
        ("OSTYPE", "linux-gnu"), ("MACHTYPE", "x86_64-pc-linux-gnu"), ("PS4", "+ "),
        ("OPTERR", "1"), ("HOSTNAME", "localhost")]
    let l := texts.foldl (fun l (x, s) => put l x s.toList false) common
    let l := put l "SHLVL" (Octets.ofNat level) true
    let l := ["UID", "EUID"].foldl (fun l x =>
      l ++ [(x.toList, { entry ['0'] false with readOnly := true, integer := true })]) l
    let l := l ++ [("BASH_VERSINFO".toList, { Shell.Variable.blank with
      value := some (.ofList (["5", "2", "15", "1", "release", "x86_64-pc-linux-gnu"].map
        String.toList)), readOnly := true })]
    let l := if l.any (·.1 = "OLDPWD".toList) then l
      else l ++ [("OLDPWD".toList, { Shell.Variable.blank with exported := true })]
    if (environment.lookup "PATH".toList).isSome then l
    else put l "PATH" (standardSearch ++ ":.".toList) false

/-- The functions that the environment holds, in variables of names of their own. -/
def importedFunctions (environment : List (Octets × Octets)) : List (Octets × Shell.Routine) :=
  let start := "BASH_FUNC_".toList
  environment.filterMap fun (x, s) =>
    if !start.isPrefixOf x || !"%%".toList.isSuffixOf x || !"() \x7b".toList.isPrefixOf s then none
    else
      let name := (x.drop start.length).dropLast.dropLast
      match Shell.nextCommand (Shell.Layout.scanFor .extended (name ++ ' ' :: s)) with
      | .ok (some (.definition origin own body, rest)) =>
          if own = name && rest.text.all Utility.isSpace then
            some (name, ⟨body, origin, "environment".toList, true, false⟩)
          else none
      | _ => none

def shell (t : FileTree) (now : Nat) (dialect : Shell.Dialect) (dir : Location) (id parent : Nat)
    (ignored : List Signal) (argv : List Octets) (environment : List (Octets × Octets)) :
    Shell.Interpreter :=
  let (s, source) := shellArguments dialect ⟨[], [], []⟩ (argv.drop 1)
  let entries := firstVariables t dialect dir parent environment
  let begin' (name : Octets) (args : List Octets) (extra : List Char)
      (tasks : List Shell.Task) : Shell.Interpreter :=
    let vars : Shell.Variables :=
      { dialect
        entries
        name
        args
        status := 0
        processId := id
        ownId := id
        lastBackground := none
        options := (extra ++ (if dialect == .extended then ['h', 'B'] else []) ++
          s.options.filter fun o => o != 'l' && o != 'O' && o != 's' && o != 'c').filter fun o =>
            !s.unset.contains o
        settings := s.settings
        line := 0
        command := ⟨0, [], []⟩
        copies := 0
        clock := now
        ahead := -(now / 1000000 : Nat)
        seed := id
        random := 0
        given := []
        aside := [] }
    let vars := if dialect == .extended then
        vars.setValue "BASH_SOURCE".toList (.ofList (if tasks.isEmpty then [] else [name]))
      else vars
    { vars
      functions := if dialect == .extended then importedFunctions environment else []
      coprocess := none
      aliases := []
      tasks
      traps := []
      steadfast := ignored
      jobs := []
      hashed := []
      disabled := []
      search := ⟨1, none, ['1']⟩
      outputStatus := none
      sheltered := false
      yields := match source with
        | .argument .. => dialect == .extended
        | _ => false
      callers := []
      place := nameOfPlace t dir environment }
  let own := argv.headD []
  -- A file may be named that is run before the script.
  let startFile : List Shell.Task :=
    match (if dialect == .extended then environment.lookup "BASH_ENV".toList else none) with
    | some file =>
        let expands := file.any fun c => c == '$' || c == '\x60'
        if file.isEmpty || !(expands || t.isPresent dir (Utility.pathOf file)) then []
        else
          let path := if file.contains '/' || expands then file else "./".toList ++ file
          [.script (scriptFrom dialect (". \"".toList ++ path ++ ['"']))]
    | none => []
  match source with
  | .bad message => begin' own [] [] [.giveUp message 2]
  | .argument script args =>
      begin' (args.headD own) (args.drop 1) (if dialect == .extended then ['c'] else [])
        (startFile ++ [.script (scriptFrom dialect script)])
  | .input args => begin' own args ['s'] [.readScript [], .exit]
  | .file file args =>
      let places := if dialect == .extended && !file.contains '/' then
          file :: (Utility.splitAt ':' ((environment.lookup "PATH".toList).getD [])).map fun place =>
            if place.isEmpty then file else place ++ '/' :: file
        else [file]
      let first := (places.find? fun p => t.isPresent dir (Utility.pathOf p)).getD file
      match t.read dir (Utility.pathOf first) with
      | .ok data =>
          let text := Octets.ofBytes data
          let isBinary := dialect == .extended &&
            ((text.take 80).takeWhile (· != '\n')).contains '\x00'
          if isBinary then
            begin' own args [] [.giveUp (file ++ ": cannot execute binary file".toList) 126]
          else begin' file args [] (startFile ++ [.script (scriptFrom dialect text), .exit])
      | .error e =>
          let missing := e = .os .noEntry || e = .os .notDirectory
          let (message, n) : Octets × Nat :=
            if dialect == .extended then
              (file ++ ": ".toList ++ Utility.errorText e, if missing then 127 else 126)
            else if e = .os .isDirectory then ([], 0)
            else ("cannot open ".toList ++ file ++ ": ".toList ++
              (if missing then "No such file".toList else Utility.errorText e), 2)
          begin' own args [] [.giveUp message n]

def running (m : Machine) (dir : Location) (id parent : Nat) (ignored : List Signal)
    (name : String) (argv : List Octets) (environment : List (Octets × Octets)) : Running :=
  match shells.lookup name with
  | some dialect => .shell (shell m.tree m.now dialect dir id parent ignored argv environment)
  | none => .job (.start name (argv.drop 1) environment m.tree)

end Launch

end Conformance
