import Conformance.Computer.Machine.Builtin.Basic

/-!
# Builtins for variables and options
-/

namespace Conformance

namespace Shell

namespace Builtin

open Act

/-- Does something that may be an error. -/
def attempt (e : Expand Unit) : Act Bool := do
  match e.run ⟨← vars, []⟩ with
  | .ok ((), e) => do
      modifyVariables fun _ => e.vars
      return true
  | .error (.failed message fatal) => do
      interrupt message fatal
      return false
  | .error (.needs ..) => return false

/-! ## Local variables -/

/-- Variables get back what they are when the function that runs returns.  Without a function there
is no answer; otherwise it tells whether some of them are new to the function. -/
def keepForReturn (names : List Octets) : Act (Option Bool) := do
  let tasks := (← shell).tasks
  let above := tasks.takeWhile fun t => match t with
    | .returnTo .. => false
    | _ => true
  if above.length = tasks.length then return none
  else do
    let v ← vars
    let kept (x : Octets) : Bool := above.any fun t => match t with
      | .unassign old => old.any fun o => o.1 = x
      | _ => false
    let fresh := names.filter fun x => !kept x
    setTasks (above ++ .unassign (fresh.map fun x => (x, v.find? x)) :: tasks.drop above.length)
    return some (!fresh.isEmpty)

/-- The options are put back when the function that runs returns. -/
def keepOptions : Act Unit := do
  let v ← vars
  let tasks := (← shell).tasks
  let above := tasks.takeWhile fun t => match t with
    | .returnTo .. => false
    | _ => true
  setTasks (above ++ .setOptions v.options v.settings :: tasks.drop above.length)

def localCommand (c : Call) : Act Unit := do
  let names := c.args.map fun a => (splitAssignment a).1
  if (← keepForReturn (names.filter fun x => x != ['-'])).isSome then do
    for a in c.args do
      match splitAssignment a with
      | (['-'], none) => keepOptions
      | (x, some s) => modifyVariables fun v => v.set x s
      | (_, none) => pure ()
    setStatus 0
  else failWith c "not in a function".toList 1

/-! ## Marks on variables -/

def plainText (word x : Octets) (v : Variables) : Octets :=
  word ++ ' ' :: x ++ (match v.value? x with
    | some s => '=' :: quote s
    | none => []) ++ ['\n']

def showDeclarations (c : Call) (chosen : Variable → Bool) : Act Unit := do
  let v ← vars
  let names := sorted ((v.entries.filter fun e => chosen e.2).map Prod.fst)
  printWith c (names.flatMap fun x =>
    if v.isExtended && !v.isSet "posix" then declarationText x ((v.find? x).getD .blank)
    else plainText c.name x v) 0

def markAll (c : Call) (mark : Variable → Variable) : List Octets → Act Unit
  | [] => return
  | a :: rest => do
      let (x, value?) := splitAssignment a
      let appends := (← isExtended) && x.getLast? == some '+' && value?.isSome
      let x := if appends then x.dropLast else x
      if !isName x then do
        fail c (x ++ ": bad variable name".toList)
          (quotedInMessage a ++ ": not a valid identifier".toList) 1
        if ← isExtended then markAll c mark rest
      else do
        let goesOn ← match value? with
          | some s => attempt (Expand.assignText x appends s)
          | none => pure true
        if goesOn then do
          let listed := c.arrays.filter fun l => l.name = x
          for l in listed do
            let _ ← attempt (Expand.assignItems x l.appends l.items)
          modifyVariables fun v => v.update (v.resolve x) mark
          markAll c mark rest

def markFunction (x : Octets) (mark : Routine → Routine) : Act Unit :=
  modifyShell fun i => { i with
    functions := i.functions.map fun (y, r) => (y, if y = x then mark r else r) }

def functionDeclaration (i : Interpreter) (x : Octets) : Octets :=
  let r? := i.functions.lookup x
  "declare -f".toList ++ (if r?.any Routine.readOnly then ['r'] else []) ++
    (if r?.any Routine.exported then ['x'] else []) ++ ' ' :: x ++ ['\n']

def showFunctions (c : Call) (isMarked : Routine → Bool) : Act Unit := do
  let i ← shell
  let names := sorted ((i.functions.filter fun (_, r) => isMarked r).map Prod.fst)
  printWith c (names.flatMap fun x => functionText i x ++ functionDeclaration i x) 0

def markFunctions (c : Call) (mark : Routine → Routine) (names : List Octets) : Act Unit := do
  for x in names do
    if ((← shell).functions.lookup x).isNone then
      failWith c (x ++ ": not a function".toList) 1
    else markFunction x mark

def exportCommand (c : Call) : Act Unit :=
  withLetters c "p" "pnfaA" "export [-fn] [name[=value] ...] or export -p" fun letters args => do
    if args.isEmpty && letters.contains 'f' then showFunctions c Routine.exported
    else if args.isEmpty then showDeclarations c Variable.exported
    else do
      setStatus 0
      if letters.contains 'f' then
        markFunctions c (fun r => { r with exported := !letters.contains 'n' }) args
      else markAll c (fun entry => { entry with exported := !letters.contains 'n' }) args

def readonlyCommand (c : Call) : Act Unit :=
  withLetters c "p" "paAf" "readonly [-aAf] [name[=value] ...] or readonly -p"
      fun letters args => do
    if args.isEmpty && letters.contains 'f' then showFunctions c Routine.readOnly
    else if args.isEmpty then showDeclarations c Variable.readOnly
    else do
      setStatus 0
      if letters.contains 'f' then markFunctions c (fun r => { r with readOnly := true }) args
      else markAll c (fun entry => { entry with readOnly := true }) args

def unsetAll (c : Call) (letters : List Char) : List Octets → Act Unit
  | [] => return
  | x :: rest => do
      let i ← shell
      let extended := i.vars.isExtended
      let (base, index) := nameAndIndex x
      let removeFunction : Act Unit := do
        if extended && (i.functions.lookup x).any Routine.readOnly then
          failWith c (x ++ ": cannot unset: readonly function".toList) 1
        else modifyShell fun i => { i with functions := i.functions.filter (·.1 != x) }
      if letters.contains 'f' then do
        removeFunction
        unsetAll c letters rest
      else if !isName base then
        if extended then
          if !letters.contains 'v' then do
            removeFunction
            unsetAll c letters rest
          else do
            failWith c (quotedInMessage x ++ ": not a valid identifier".toList) 1
            unsetAll c letters rest
        else failWith c (x ++ ": bad variable name".toList) 1
      else if i.vars.isReadOnly base then do
        fail c (x ++ ": is read only".toList) (x ++ ": cannot unset: readonly variable".toList) 1
        if extended then unsetAll c letters rest
      else do
        match index with
        | .at [.text key _] =>
            match i.vars.lookup? base with
            | some (.keyed items) =>
                modifyVariables fun v => v.setValue base (.keyed (items.filter (·.1 != key)))
            | some (.indexed items) =>
                match ← arithmetic key with
                | .ok n =>
                    let gone := Value.place? items n
                    modifyVariables fun v =>
                      v.setValue base (.indexed (items.filter fun e => some e.1 != gone))
                | .error _ => pure ()
            | _ => modifyVariables fun v => v.remove base
        | _ =>
            let name := if letters.contains 'n' then base else i.vars.resolve base
            if extended && !letters.contains 'v' && (i.vars.find? name).isNone &&
                !i.vars.isKept name then removeFunction
            else modifyVariables fun v => if v.isKept name then v.unset name else v.remove name
        unsetAll c letters rest

def unsetCommand (c : Call) : Act Unit :=
  withLetters c "vf" "vfn" "unset [-f] [-v] [-n] [name ...]" fun letters args => do
    setStatus 0
    if letters.contains 'f' && letters.contains 'v' && (← isExtended) then
      failWith c "cannot simultaneously unset a function and a variable".toList 1
    else unsetAll c letters args

/-! ## Declarations -/

/-- What the letters of a declaration ask for. -/
structure Attributes where
  on : List Char
  off : List Char

/-- Reads the letters of a declaration and the names behind them. -/
def attributesOf (a : Attributes) : List Octets → Except Char (Attributes × List Octets)
  | [] => .ok (a, [])
  | ['-', '-'] :: rest => .ok (a, rest)
  | ('-' :: d :: letters) :: rest =>
      match (d :: letters).find? fun e => !"aAilunrxgpfFtI".toList.contains e with
      | some e => .error e
      | none => attributesOf { a with on := a.on ++ d :: letters } rest
  | ('+' :: d :: letters) :: rest => attributesOf { a with off := a.off ++ d :: letters } rest
  | args => .ok (a, args)

def withAttributes (a : Attributes) (entry : Variable) : Variable :=
  let on (d : Char) (old : Bool) : Bool := (old || a.on.contains d) && !a.off.contains d
  let value := match entry.value with
    | some (.text s) =>
        if a.on.contains 'A' then some (.keyed [(['0'], s)])
        else if a.on.contains 'a' then some (.indexed [(0, s)]) else entry.value
    | none =>
        if a.on.contains 'A' then some (.keyed [])
        else if a.on.contains 'a' then some (.indexed []) else none
    | value => value
  { value
    exported := on 'x' entry.exported
    readOnly := entry.readOnly
    integer := on 'i' entry.integer
    casing := if a.on.contains 'l' then some .lower else if a.on.contains 'u' then some .upper
      else if a.off.contains 'l' || a.off.contains 'u' then none else entry.casing
    refers := on 'n' entry.refers
    isBlank := entry.isBlank || (entry.value.isNone && value.isSome) }

def declareOne (c : Call) (a : Attributes) (arg : Octets) : Act Unit := do
  let (left, value?) := splitAssignment arg
  let appends := left.getLast? == some '+' && value?.isSome
  let left := if appends then left.dropLast else left
  let (x, index) := nameAndIndex left
  if !isName x then
    failWith c (quotedInMessage arg ++ ": not a valid identifier".toList) 1
  else do
    let isLocal := !a.on.contains 'g'
    let hides ← if isLocal then keepForReturn [x] else pure none
    -- A variable that is new to the function begins without a value.
    if hides = some true then
      modifyVariables fun v =>
        if ((v.find? x).any Variable.exported) then
          v.put x { Variable.blank with exported := true }
        else v.remove x
    let old := ((← vars).find? x).getD .blank
    if old.readOnly && (value?.isSome || a.off.contains 'r') then do
      complain (c.name ++ ": ".toList ++ x ++ ": readonly variable".toList)
      setStatus 1
    else do
      modifyVariables fun v => v.update x (withAttributes a)
      let goesOn ← match value?, index with
        | none, _ => pure true
        | some s, .at [.text key _] => attempt (Expand.assignItem x key appends s)
        | some s, _ =>
            if a.on.contains 'n' then do
              modifyVariables fun v => v.update x fun e => { e with value := some (.text s) }
              pure true
            else attempt (Expand.assignText x appends s)
      if goesOn then do
        for l in c.arrays.filter fun l => l.name = x do
          let _ ← attempt (Expand.assignItems x l.appends l.items)
        if a.on.contains 'r' then
          modifyVariables fun v => v.update x fun e => { e with readOnly := true }

def declareCommand (c : Call) : Act Unit := do
  match attributesOf ⟨[], []⟩ c.args with
  | .error d => do
      complain (c.name ++ ": -".toList ++ [d] ++ ": invalid option".toList)
      write 2 (c.name ++ ": usage: ".toList ++ c.name ++
        " [-aAfFgiIlnrtux] [name[=value] ...] or declare -p [-aAfFilnrtux] [name ...]\n".toList)
      setStatus 2
  | .ok (a, args) => do
      let i ← shell
      let isLocal := c.name = "local".toList
      let inFunction := i.tasks.any fun t => match t with
        | .returnTo .. => true
        | _ => false
      if isLocal && !inFunction then
        failWith c "can only be used in a function".toList 1
      else if a.on.contains 'f' || a.on.contains 'F' then do
        let listed := i.functions.filter fun (_, r) =>
          (r.exported || !a.on.contains 'x') && (r.readOnly || !a.on.contains 'r')
        let names := if args.isEmpty then sorted (listed.map Prod.fst) else args
        let found := names.filter fun x => (i.functions.lookup x).isSome
        let text := found.flatMap fun x =>
          if a.on.contains 'F' then if args.isEmpty then functionDeclaration i x else x ++ ['\n']
          else
            let isMarked := (i.functions.lookup x).any fun r => r.exported || r.readOnly
            functionText i x ++ (if args.isEmpty && isMarked then functionDeclaration i x else [])
        if !args.isEmpty && (a.on ++ a.off).any fun d => d == 'x' || d == 'r' then do
          for x in found do
            markFunction x fun r => { r with
              exported := (r.exported || a.on.contains 'x') && !a.off.contains 'x'
              readOnly := r.readOnly || a.on.contains 'r' }
          setStatus (if found.length = names.length then 0 else 1)
        else printWith c text (if found.length = names.length then 0 else 1)
      else if a.on.contains 'p' then
        if args.isEmpty then
          showDeclarations c fun entry => a.on.all fun d =>
            d == 'p' || (attributeLetters entry).contains d
        else do
          setStatus 0
          for x in args do
            match (← vars).find? x with
            | some entry => print (declarationText x entry)
            | none => failWith c (x ++ ": not found".toList) 1
      else if args.isEmpty then
        showDeclarations c fun entry => a.on.all fun d => (attributeLetters entry).contains d
      else do
        setStatus 0
        for arg in args do
          if arg = ['-'] then (if isLocal then keepOptions else pure ()) else declareOne c a arg

/-! ## Options -/

def turn (on : Bool) (letters : List Char) : Act Unit :=
  modifyVariables fun v =>
    let others := v.options.filter fun c => !letters.contains c
    { v with options := if on then others ++ letters else others }

def turnSetting (on : Bool) (name : String) : Act Unit :=
  modifyVariables fun v =>
    let others := v.settings.filter (· != name)
    { v with settings := if on then name :: others else others }

def optionStates (v : Variables) : List (Octets × Bool) :=
  let known := (Launch.optionNames v.dialect).map fun (n, d) => (n.toList, v.has d)
  if v.isExtended then
    let others := Launch.wordOptions.map fun n =>
      (n.toList, if n = "interactive-comments" then !v.isSet ("no " ++ n) else v.isSet n)
    (known ++ others).mergeSort fun a b => decide (a.1 ≤ b.1)
  else known ++ [("nolog".toList, false), ("debug".toList, false)]

/-- An option and its state, as it is shown or as a script would set it. -/
def optionLine (v : Variables) (forReading : Bool) (name : Octets) (on : Bool) : Octets :=
  if forReading then "set ".toList ++ (if on then "-o ".toList else "+o ".toList) ++ name ++ ['\n']
  else Utility.padRight 15 name ++ (if v.isExtended then ['\t'] else [' ']) ++
    (if on then "on".toList else "off".toList) ++ ['\n']

def showOptions (c : Call) (forReading : Bool) : Act Unit := do
  let v ← vars
  printWith c ((if v.isExtended || forReading then [] else "Current option settings\n".toList) ++
    (optionStates v).flatMap fun (n, on) => optionLine v forReading n on) 0

def showVariables (c : Call) : Act Unit := do
  let v ← vars
  let text (x : Octets) : Octets :=
    match v.lookup? x with
    | some (.text s) => x ++ '=' :: (if v.isExtended then
        (if s.isEmpty then [] else shown s) else quote s) ++ ['\n']
    | some value =>
        x ++ "=(".toList ++ Utility.joinWith [' '] (value.entries.map fun (k, s) =>
          '[' :: k ++ "]=".toList ++ doubleQuoted s) ++ ")\n".toList
    | none => []
  printWith c ((sorted (v.entries.map Prod.fst)).flatMap text) 0

/-- Sets options and arguments; the first flag tells whether an argument has been read. -/
def setFrom (c : Call) (fuel : Nat) (args : List Octets) : Act Unit := do
  let extended ← isExtended
  let setArgs (args : List Octets) : Act Unit := modifyVariables fun v => { v with args }
  let badName (name : Octets) : Act Unit :=
    fail c ("Illegal option -o ".toList ++ name) (name ++ ": invalid option name".toList) 2
  let named (on : Bool) (name : Octets) : Act Bool := do
    match Launch.optionLetter? (← vars).dialect name with
    | some letter => do
        turn on [letter]
        return true
    | none =>
        if extended && Launch.wordOptions.any (·.toList = name) then do
          let name := String.ofList name
          if name = "interactive-comments" then turnSetting (!on) ("no " ++ name)
          else turnSetting on name
          -- What the standard asks for comes with other settings.
          if name = "posix" then do
            turnSetting on "expand_aliases"
            if on then do
              turnSetting true "inherit_errexit"
              modifyVariables fun v => v.set "POSIXLY_CORRECT".toList ['y']
            else modifyVariables fun v => v.remove "POSIXLY_CORRECT".toList
          return true
        else if !extended && (name = "nolog".toList || name = "debug".toList) then return true
        else do
          badName name
          return false
  match fuel with
  | 0 => return
  | fuel + 1 =>
    match args with
    | [] => return
    | ['-', '-'] :: args => setArgs args
    | ['-'] :: args => do
        turn false ['x', 'v']
        if !args.isEmpty then setArgs args
    | (sign :: d :: letters) :: rest =>
        if sign != '-' && sign != '+' then setArgs args
        else do
          let on := sign == '-'
          let plainLetters := (d :: letters).filter (· != 'o')
          let takesName := (d :: letters).contains 'o'
          let dialect := (← vars).dialect
          match plainLetters.find? fun e => !Launch.isOptionLetter dialect e with
          | some e =>
              if extended then do
                complain (c.name ++ ": ".toList ++ [sign, e] ++ ": invalid option".toList)
                write 2 "set: usage: set [-abefhkmnptuvxBCEHPT] [-o option-name] [--] [-] [arg ...]\n".toList
                setStatus 2
              else failWith c ("Illegal option ".toList ++ [sign, e]) 2
          | none => do
              turn on plainLetters
              if !takesName then setFrom c fuel rest
              else match rest with
                | [] => showOptions c (!on)
                | name :: rest => do
                    if ← named on name then setFrom c fuel rest
    | args => setArgs args

def setCommand (c : Call) : Act Unit := do
  if c.args.isEmpty then showVariables c
  else do
    setStatus 0
    setFrom c (c.args.length + 1) c.args

/-- The options of the extended dialect that have their own command, and those set at first. -/
def shellOptions : List (String × Bool) :=
  [("autocd", false), ("assoc_expand_once", false), ("cdable_vars", false), ("cdspell", false),
    ("checkhash", false), ("checkjobs", false), ("checkwinsize", true), ("cmdhist", true),
    ("compat31", false), ("compat32", false), ("compat40", false), ("compat41", false),
    ("compat42", false), ("compat43", false), ("compat44", false), ("complete_fullquote", true), ("direxpand", false), ("dirspell", false),
    ("dotglob", false), ("execfail", false), ("expand_aliases", false), ("extdebug", false),
    ("extglob", false), ("extquote", true), ("failglob", false), ("force_fignore", true),
    ("globasciiranges", true), ("globskipdots", true), ("globstar", false),
    ("gnu_errfmt", false), ("histappend", false), ("histreedit", false), ("histverify", false),
    ("hostcomplete", true), ("huponexit", false), ("inherit_errexit", false),
    ("interactive_comments", true), ("lastpipe", false), ("lithist", false),
    ("localvar_inherit", false), ("localvar_unset", false), ("login_shell", false),
    ("mailwarn", false), ("no_empty_cmd_completion", false), ("nocaseglob", false),
    ("nocasematch", false), ("noexpand_translation", false), ("nullglob", false),
    ("patsub_replacement", true), ("progcomp", true), ("progcomp_alias", false),
    ("promptvars", true), ("restricted_shell", false), ("shift_verbose", false),
    ("sourcepath", true), ("varredir_close", false), ("xpg_echo", false)]

/-- Shows settings by name, all of them where none is named. -/
def showSettings (c : Call) (quiet named : Bool) (states : List (Octets × Bool))
    (line : Octets → Bool → Octets) (names : List Octets) : Act Unit := do
  setStatus 0
  if names.isEmpty then
    if !quiet then print (states.flatMap fun (n, on) => line n on)
  else for name in names do
    match states.lookup name with
    | none => failWith c (name ++ (if named then ": invalid option name"
        else ": invalid shell option name").toList) 1
    | some on => do
        if !quiet then print (line name on)
        if !on then setStatus 1

def shoptCommand (c : Call) : Act Unit :=
  withLetters c "" "supqo" "shopt [-pqsu] [-o] [optname ...]" fun letters args => do
    let v ← vars
    let has (d : Char) : Bool := letters.contains d
    let states : List (Octets × Bool) :=
      if has 'o' then optionStates v
      else shellOptions.map fun (n, first) =>
        (n.toList, if first then !v.isSet ("no " ++ n) else v.isSet n)
    let line (name : Octets) (on : Bool) : Octets :=
      if has 'o' then optionLine v (has 'p') name on
      else if has 'p' then
        "shopt ".toList ++ (if on then "-s ".toList else "-u ".toList) ++ name ++ ['\n']
      else optionLine v false name on
    if has 's' && has 'u' then
      failWith c "cannot set and unset shell options simultaneously".toList 1
    else if (has 's' || has 'u') && !args.isEmpty then do
      setStatus 0
      let on := has 's'
      for name in args do
        let s := String.ofList name
        if has 'o' then
          if (states.lookup name).isSome then setFrom c 4 [[if on then '-' else '+', 'o'], name]
          else complain (c.name ++ ": ".toList ++ name ++ ": invalid option name".toList)
        else match shellOptions.lookup s with
          | some true => turnSetting (!on) ("no " ++ s)
          | some false => turnSetting on s
          | none => failWith c (name ++ ": invalid shell option name".toList) 1
    else
      let chosen := if has 's' || has 'u' then states.filter fun (_, on) => on == has 's' else states
      showSettings c (has 'q') (has 'o') chosen line args

/-! ## Arguments -/

def shiftCommand (c : Call) : Act Unit := do
  let extended ← isExtended
  let args := if extended && c.args.head? = some "--".toList then c.args.drop 1 else c.args
  match (match args with
    | [] => some (1 : Int)
    | n :: _ => Utility.readInt? n) with
  | none =>
      fail c ("Illegal number: ".toList ++ args.headD [])
        (args.headD [] ++ ": numeric argument required".toList) 1
  | some n =>
      if n < 0 then
        fail c ("Illegal number: ".toList ++ args.headD [])
          (args.headD [] ++ ": shift count out of range".toList) 1
      else if n > (← vars).args.length then
        if extended then setStatus 1 else failWith c "can't shift that many".toList 1
      else do
        modifyVariables fun v => { v with args := v.args.drop n.toNat }
        setStatus 0

/-- Looks for the next option among arguments. -/
def getoptsCommand (c : Call) : Act Unit := do
  let i ← shell
  let extended := i.vars.isExtended
  match c.args with
  | known :: name :: given =>
      if !isName name then
        fail c (name ++ ": bad variable name".toList)
          (quotedInMessage name ++ ": not a valid identifier".toList) 1
      else do
        let operands := if given.isEmpty then i.vars.args else given
        let spelled := (i.vars.value? "OPTIND".toList).getD []
        let search : OptionSearch :=
          if spelled = i.search.mark then i.search
          else ⟨max 1 ((Utility.readNat? spelled).getD 1), none, spelled⟩
        let search := if search.index > operands.length + 1 then ⟨1, none, []⟩ else search
        let silent := known.head? == some ':' || (extended &&
          (i.vars.value? "OPTERR".toList) = some ['0'])
        -- The letters that are left of an argument, and the number of the argument behind it.
        let left : Octets := match search.offset with
          | some k => ((operands[search.index - 2]?).getD []).drop k
          | none => []
        let next := operands[search.index - 1]?
        let begun? : Option (Octets × Nat × Nat) :=
          if !left.isEmpty && search.index ≥ 2 then
            some (left, search.index, (search.offset.getD 0))
          else match next with
            | some ('-' :: d :: letters) =>
                if d == '-' && letters.isEmpty then none
                else some (d :: letters, search.index + 1, 1)
            | _ => none
        let finish (index : Nat) (offset : Option Nat) (result : Octets) (value? : Option Octets)
            (n : Nat) : Act Unit := do
          -- The extended dialect counts an argument only when all its letters are read.
          let shownIndex := if extended && offset.isSome then index - 1 else index
          modifyVariables fun v => v.set "OPTIND".toList (Octets.ofNat shownIndex)
          modifyVariables fun v => match value? with
            | some s => v.set "OPTARG".toList s
            | none => v.remove "OPTARG".toList
          modifyShell fun i => { i with search := ⟨index, offset, Octets.ofNat shownIndex⟩ }
          let fine ← assign name result
          if fine then setStatus n
        let report (plain : String) (extendedText : String) (letter : Char) (behind : String) :
            Act Unit :=
          if silent then return
          else if extended then
            write 2 (i.vars.name ++ ": ".toList ++ extendedText.toList ++ [letter, '\n'])
          else write 2 (plain.toList ++ [letter] ++ behind.toList ++ ['\n'])
        match begun? with
        | none => do
            let index := if next = some "--".toList then search.index + 1 else search.index
            let old := i.vars.value? "OPTARG".toList
            finish index none ['?'] (if extended then none else old) 1
        | some ([], _, _) => setStatus 1
        | some (letter :: more, index, offset) =>
            let later : Option Nat := if more.isEmpty then none else some (offset + 1)
            let spec := known.dropWhile (· == ':')
            match spec.dropWhile (· != letter) with
            | [] => do
                report "Illegal option -" "illegal option -- " letter ""
                finish index later ['?'] (if known.head? == some ':' then some [letter] else none) 0
            | _ :: after =>
                if letter == ':' then do
                  report "Illegal option -" "illegal option -- " letter ""
                  finish index later ['?'] (if known.head? == some ':' then some [letter] else none)
                    0
                else if after.head? != some ':' then
                  finish index later [letter] (if extended then none else some []) 0
                else if !more.isEmpty then finish index none [letter] (some more) 0
                else match operands[index - 1]? with
                  | some value => finish (index + 1) none [letter] (some value) 0
                  | none => do
                      report "No arg for -" "option requires an argument -- " letter " option"
                      if known.head? == some ':' then finish index none [':'] (some [letter]) 0
                      else finish index none ['?'] none 0
  | _ =>
      if extended then do
        write 2 "getopts: usage: getopts optstring name [arg ...]\n".toList
        setStatus 2
      else failWith c "Usage: getopts optstring var [arg...]".toList 2

/-- Reckons expressions; fails if the last one is zero. -/
def letCommand (c : Call) : Act Unit := do
  if c.args.isEmpty then failWith c "expression expected".toList 1
  else do
    let mut last : Int := 0
    let mut fine := true
    for a in c.args do
      if fine then
        match ← arithmetic a with
        | .ok n => last := n
        | .error message => do
            failWith c message 1
            fine := false
    if fine then setStatus (if last = 0 then 1 else 0)

end Builtin

end Shell

end Conformance
