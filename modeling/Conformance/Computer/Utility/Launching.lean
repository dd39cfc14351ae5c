import Conformance.Computer.Utility.Clock

/-!
# Programs that run programs

`env`, `nice`, `nohup`, `setsid`, `stdbuf`, `timeout` and `xargs`, which run commands, and `kill`,
which ends them.
-/

namespace Conformance

namespace Utility

namespace Launching

/-! ## Environments -/

def isAssignment (s : Octets) : Bool := s.contains '='

def setVariable (e : List (Octets × Octets)) (s : Octets) : List (Octets × Octets) :=
  let name := s.takeWhile (· != '=')
  let entry := (name, s.drop (name.length + 1))
  if (e.lookup name).isSome then e.map fun old => if old.1 = name then entry else old
  else e ++ [entry]

def environmentText (e : List (Octets × Octets)) (ending : Octets) : Octets :=
  e.flatMap fun (name, value) => name ++ '=' :: value ++ ending

def bracedName? : Octets → Option (Octets × Octets)
  | '{' :: rest =>
      let name := rest.takeWhile fun c => c.isAlphanum || c == '_'
      match rest.drop name.length with
      | '}' :: after => if name.head?.any fun c => !c.isDigit then some (name, after) else none
      | _ => none
  | _ => none

/-- The words of a text with quotes and escapes, in which a dollar and braces name a variable; the
word being read and the words before it come backwards. -/
def splitText (c : Context) (fuel : Nat) (quote : Option Char) (word : Option Octets)
    (done : List Octets) (s : Octets) : Except Octets (List Octets) :=
  let words := (word.toList.map List.reverse ++ done).reverse
  match fuel, s with
  | 0, _ => .ok words
  | _, [] => if quote.isSome then .error "no terminating quote in -S string".toList else .ok words
  | fuel + 1, ch :: rest =>
      let add (d : Char) (rest : Octets) : Except Octets (List Octets) :=
        splitText c fuel quote (some (d :: word.getD [])) done rest
      let next (rest : Octets) : Except Octets (List Octets) :=
        splitText c fuel quote none (word.toList.map List.reverse ++ done) rest
      if quote != some '"' && ch == '\'' || quote != some '\'' && ch == '"' then
        splitText c fuel (if quote.isNone then some ch else none) (some (word.getD [])) done rest
      else if quote.isNone && isSpace ch then next rest
      else if quote.isNone && word.isNone && ch == '#' then .ok words
      else if ch == '\\' && (quote != some '\'' || rest.head? == some '\\' ||
          rest.head? == some '\'') then
        match rest with
        | [] => .error "invalid backslash at end of string in -S".toList
        | d :: rest =>
            if "\"#$'\\".toList.contains d then add d rest
            else match d with
              | '_' => if quote.isSome then add ' ' rest else next rest
              | 'c' =>
                  if quote.isSome then
                    .error "'\\c' must not appear in double-quoted -S string".toList
                  else .ok words
              | 'f' => add '\x0c' rest
              | 'n' => add '\n' rest
              | 'r' => add '\r' rest
              | 't' => add '\t' rest
              | 'v' => add '\x0b' rest
              | d => .error ("invalid sequence '\\".toList ++ d :: "' in -S".toList)
      else if ch == '$' && quote != some '\'' then
        match bracedName? rest with
        | none => .error
            ("only $\x7bVARNAME\x7d expansion is supported, error at: ".toList ++ ch :: rest)
        | some (name, after) =>
            match c.environment.lookup name with
            | some value =>
                splitText c fuel quote (some (value.reverse ++ word.getD [])) done after
            | none => splitText c fuel quote word done after
      else add ch rest

/-- Arguments in which texts to be split are replaced by their words.  Fuel bounds the arguments. -/
def splitArgs (c : Context) (fuel : Nat) (args : List Octets) : Except Octets (List Octets) :=
  let named := "-split-string=".toList
  match fuel, args with
  | 0, _ => .ok args
  | fuel + 1, ('-' :: letters) :: rest =>
      let split (text : Octets) (rest : List Octets) : Except Octets (List Octets) := do
        splitArgs c fuel ((← splitText c (text.length + 1) none none [] text) ++ rest)
      let keep (rest : List Octets) : Except Octets (List Octets) := do
        return ('-' :: letters) :: (← splitArgs c fuel rest)
      let flags := letters.takeWhile fun l => l == 'i' || l == '0' || l == 'v'
      let front := if flags.isEmpty then [] else ['-' :: flags]
      match letters.drop flags.length, rest with
      | ['S'], text :: rest => do return front ++ (← split text rest)
      | 'S' :: text, rest => do return front ++ (← split text rest)
      | ['u'], value :: rest | ['C'], value :: rest => do
          return ('-' :: letters) :: value :: (← splitArgs c fuel rest)
      | 'u' :: _, rest | 'C' :: _, rest => keep rest
      | [], rest => if letters.isEmpty then .ok args else keep rest
      | ['-'], _ => .ok args
      | _, rest =>
          if named.isPrefixOf letters then split (letters.drop named.length) rest
          else match rest with
            | text :: rest =>
                if letters = named.dropLast then split text rest else keep (text :: rest)
            | [] => .ok args
  | _, args => .ok args

def env (c : Context) : Answer :=
  let long : List (String × Char × Arity) :=
    [("ignore-environment", 'i', .flag), ("null", '0', .flag), ("unset", 'u', .required),
      ("chdir", 'C', .required), ("split-string", 'S', .required), ("debug", 'v', .flag),
      ("ignore-signal", '\x03', .optional), ("default-signal", '\x04', .optional),
      ("block-signal", '\x05', .optional), ("list-signal-handling", '\x06', .flag)]
  match splitArgs c (c.args.flatten.length + c.args.length + 1) c.args with
  | .error message => .failure c 125 ("env: ".toList ++ message)
  | .ok args => withReadOptions c "env" 125 (Options.readLeading "0C:iS:u:v" (long ++ commonOptions) args)
    fun o =>
    let (clear, operands) := match o.operands with
      | ['-'] :: rest => (true, rest)
      | rest => (o.has 'i', rest)
    let start := if clear then [] else c.environment
    let unset := (o.values 'u').foldl (fun e name => e.filter (·.1 != name)) start
    let assigned := operands.takeWhile isAssignment
    let e := assigned.foldl setVariable unset
    let command := operands.drop assigned.length
    match (o.values 'u').find? fun name => name.isEmpty || name.contains '=' with
    | some name =>
        .failure c 125 ("env: cannot unset ".toList ++ quoted c name ++
          ": Invalid argument".toList)
    | none =>
        let directory? : Except IoError Location := match o.value? 'C' with
          | none => .ok c.directory
          | some dir =>
              match c.tree.lookup c.directory (pathOf dir) true with
              | .ok (loc, .directory) => .ok loc
              | .ok _ => .error (.os .notDirectory)
              | .error e => .error e
        if command.isEmpty then
          if o.has 'C' then
            .failure c 125 ("env: must specify command with --chdir (-C)".toList ++ tryHelp "env")
          else .ok c (environmentText e (if o.has '0' then ['\x00'] else ['\n']))
        else if o.has '0' then
          .failure c 125 ("env: cannot specify --null (-0) with command".toList ++ tryHelp "env")
        else match directory? with
          | .error err =>
              .failure c 125 ("env: cannot change directory to ".toList ++
                quotedName ((o.value? 'C').getD []) ++ ": ".toList ++ errorText err)
          | .ok directory =>
              let ignored := (o.values '\x03').flatMap fun names =>
                (splitAt ',' names).filterMap Signal.parse?
              .becomes ⟨command, e, none, ignored, directory, c.niceness⟩

def printenv (c : Context) : Answer :=
  withOptions c "printenv" 2 "0" [("null", '0', .flag)] fun o =>
    let ending : Octets := if o.has '0' then ['\x00'] else ['\n']
    if o.operands.isEmpty then .ok c (environmentText c.environment ending)
    else
      let values := o.operands.map fun name => c.environment.lookup name
      .ends ⟨values.filterMap fun v => v.map fun s => .out (s ++ ending),
        if values.all Option.isSome then 0 else 1, c.tree⟩

/-! ## Other ways to run a command -/

def withAdjustment : List Octets → List Octets
  | ('-' :: d :: digits) :: rest =>
      if (d.isDigit || ((d == '-' || d == '+') && digits.head?.any Char.isDigit)) then
        "-n".toList :: (d :: digits) :: withAdjustment rest
      else if d == 'n' && digits.isEmpty then
        match rest with
        | value :: rest => "-n".toList :: value :: withAdjustment rest
        | [] => ["-n".toList]
      else ('-' :: d :: digits) :: rest
  | args => args

def nice (c : Context) : Answer :=
  withReadOptions c "nice" 125 (Options.readLeading "n:"
      ([("adjustment", 'n', .required)] ++ commonOptions) (withAdjustment c.args)) fun o =>
    match (match o.value? 'n' with
      | none => some (10 : Int)
      | some s => readInt? s) with
    | none => .failure c 125 ("nice: invalid adjustment ".toList ++ quoted c ((o.value? 'n').getD []))
    | some n =>
        if o.operands.isEmpty then
          if o.has 'n' then
            .failure c 125 ("nice: a command must be given with an adjustment".toList ++
              tryHelp "nice")
          else .ok c ((toString c.niceness).toList ++ ['\n'])
        else .becomes ⟨o.operands, c.environment, none, [], c.directory,
          max (-20) (min 19 (c.niceness + n))⟩

def nohup (c : Context) : Answer :=
  withLeadingOptions c "nohup" 125 "" [] fun o =>
    if o.operands.isEmpty then
      .failure c 125 ("nohup: missing operand".toList ++ tryHelp "nohup")
    else .becomes ⟨o.operands, c.environment, none, [⟨1⟩], c.directory, c.niceness⟩

def setsid (c : Context) : Answer :=
  let long : List (String × Char × Arity) :=
    [("ctty", 'c', .flag), ("fork", 'f', .flag), ("wait", 'w', .flag)]
  withLeadingOptions c "setsid" 1 "cfw" long fun o =>
    if o.operands.isEmpty then
      .failure c 1 ("setsid: no command specified".toList ++ tryHelp "setsid")
    else .becomes ⟨o.operands, c.environment, some (o.has 'w'), [], c.directory, c.niceness⟩

def stdbuf (c : Context) : Answer :=
  let long : List (String × Char × Arity) :=
    [("input", 'i', .required), ("output", 'o', .required), ("error", 'e', .required)]
  withLeadingOptions c "stdbuf" 125 "i:o:e:" long fun o =>
    if o.operands.isEmpty then
      .failure c 125 ("stdbuf: missing operand".toList ++ tryHelp "stdbuf")
    else if o.given.isEmpty then
      .failure c 125 ("stdbuf: you must specify a buffering mode option".toList ++
        tryHelp "stdbuf")
    else .runs c o.operands

def timeout (c : Context) : Answer :=
  let long : List (String × Char × Arity) :=
    [("foreground", '\x03', .flag), ("kill-after", 'k', .required),
      ("preserve-status", '\x04', .flag), ("signal", 's', .required), ("verbose", 'v', .flag)]
  withLeadingOptions c "timeout" 125 "k:s:v" long fun o =>
    let badTime (s : Octets) : Answer :=
      .failure c 125 ("timeout: invalid time interval ".toList ++ quoted c s ++ tryHelp "timeout")
    match o.operands with
    | [] | [_] => .failure c 125 "Try 'timeout --help' for more information.".toList
    | time :: command =>
        match (o.value? 's').map Signal.parse?, Clock.readPause? time,
            (o.value? 'k').map Clock.readPause? with
        | some none, _, _ =>
            .failure c 125 ("timeout: ".toList ++ quoted c ((o.value? 's').getD []) ++
              ": invalid signal".toList ++ tryHelp "timeout")
        | _, none, _ => badTime time
        | _, _, some none => badTime ((o.value? 'k').getD [])
        | s?, some micros, grace? =>
            .guards command
              { micros
                signal := (s?.bind id).getD .terminate
                grace := grace?.bind id
                foreground := o.has '\x03'
                keepsStatus := o.has '\x04' }

/-! ## Commands with arguments from the input -/

/-- Reads the words of a text: quotes and backslashes protect blanks.  Each word comes with whether
its line ends behind it. -/
def inputWords (s : Octets) : Except Octets (List (Octets × Bool)) :=
  let rec go (fuel : Nat) (word : Option Octets) (done : List (Octets × Bool)) :
      Octets → Except Octets (List (Octets × Bool))
    | [] => .ok ((word.toList.map (fun w => (w.reverse, true)) ++ done).reverse)
    | ch :: rest =>
        match fuel with
        | 0 => .ok done.reverse
        | fuel + 1 =>
          if ch == '\n' then
            let done := match word, done with
              | some w, done => (w.reverse, true) :: done
              | none, (w, _) :: done => (w, true) :: done
              | none, [] => []
            go fuel none done rest
          else if isSpace ch then
            go fuel none (word.toList.map (fun w => (w.reverse, false)) ++ done) rest
          else if ch == '\\' then
            match rest with
            | d :: rest => go fuel (some (d :: word.getD [])) done rest
            | [] => go fuel word done []
          else if ch == '\'' || ch == '"' then
            let inner := rest.takeWhile fun d => d != ch && d != '\n'
            match rest.drop inner.length with
            | d :: after =>
                if d == ch then go fuel (some (inner.reverse ++ word.getD [])) done after
                else .error (("unmatched " ++ (if ch == '"' then "double" else "single") ++
                  " quote; by default quotes are special to xargs unless you use the -0 option").toList)
            | [] => .error (("unmatched " ++ (if ch == '"' then "double" else "single") ++
                " quote; by default quotes are special to xargs unless you use the -0 option").toList)
          else go fuel (some (ch :: word.getD [])) done rest
  go (s.length + 1) none [] s

def markedItems (mark : Char) (s : Octets) : List Octets :=
  let parts := splitAt mark s
  if parts.getLast? == some [] then parts.dropLast else parts

def replaceMark (mark new : Octets) (fuel : Nat) (s : Octets) : Octets :=
  match fuel, s with
  | 0, _ | _, [] => s
  | fuel + 1, d :: rest =>
      if !mark.isEmpty && mark.isPrefixOf s then
        new ++ replaceMark mark new fuel (s.drop mark.length)
      else d :: replaceMark mark new fuel rest

def pieces {α : Type} (fuel size : Nat) (l : List α) : List (List α) :=
  match fuel, l with
  | 0, _ | _, [] => []
  | fuel + 1, l => l.take size :: pieces fuel size (l.drop size)

/-- The words of each line; a blank at the end of a line joins it with the next one. -/
def lineGroups (words : List (Octets × Bool)) : List (List Octets) :=
  let (groups, current) := words.foldl (fun (groups, current) (word, ends) =>
    if ends then ((word :: current).reverse :: groups, []) else (groups, word :: current))
    (([], []) : List (List Octets) × List Octets)
  (if current.isEmpty then groups else current.reverse :: groups).reverse

/-- How many arguments go to one command. -/
inductive Share where
  | all
  | words (n : Nat)
  | lines (n : Nat)
  | inPlaceOf (mark : Octets)
  deriving DecidableEq, Repr

/-- The share that options ask for; the last one counts, but for one word at a time. -/
def shareOf (o : Options) : Share :=
  let count (v : Octets) : Nat := max 1 ((readNat? v).getD 1)
  o.given.foldl (fun share (letter, v) =>
    match letter, share with
    | 'I', _ => .inPlaceOf v
    | 'i', _ => .inPlaceOf (if v.isEmpty then "\x7b\x7d".toList else v)
    | 'n', .inPlaceOf mark => if count v = 1 then .inPlaceOf mark else .words (count v)
    | 'n', _ => .words (count v)
    | 'L', _ | 'l', _ => .lines (count v)
    | _, share => share) .all

/-- The bytes that words take up, each with an end. -/
def sizeOf (words : List Octets) : Nat := (words.map fun w => w.length + 1).foldl (· + ·) 0

/-- Deals words out to commands of a size, and tells whether all fit; a word that fits into none
ends the dealing. -/
def dealt (most : Option Nat) (room : Nat) (batch : List Octets) :
    List Octets → List (List Octets) × Bool
  | [] => (if batch.isEmpty then [] else [batch.reverse], true)
  | w :: rest =>
      if sizeOf [w] > room then ([], false)
      else if most = some batch.length || sizeOf (w :: batch) > room then
        let (batches, fits) := dealt most room [w] rest
        (batch.reverse :: batches, fits)
      else dealt most room (w :: batch) rest

/-- Goes through commands, which run one after the other, and ends with the status that sums up
theirs, or with a complaint. -/
def runEach (c : Context) (trace : Bool) (input : Option Octets) (complaint? : Option Octets)
    (commands : List (List Octets)) : Answer :=
  let traced (commands : List (List Octets)) : List Print :=
    if trace then commands.map fun words =>
      .err (joinWith [' '] (words.map (shellWord false)) ++ ['\n'])
    else []
  let finish (started worst : Nat) : Answer :=
    match complaint? with
    | none => .ends ⟨traced (commands.take started), worst, c.tree⟩
    | some message =>
        .ends ⟨traced (commands.take started) ++ [.err ("xargs: ".toList ++ message ++ ['\n'])], 1,
          c.tree⟩
  let rec go (ran : List Ran) (worst : Nat) (left : List (List Octets)) (started : Nat) : Answer :=
    match ran, left with
    | [], [] => finish started worst
    | [], command :: _ =>
        .calls (traced (commands.take (started + 1))) c.tree
          { args := command, environment := c.environment, input, captures := false }
    | _ :: _, [] => finish started worst
    | r :: ran, command :: left =>
        let stop (n : Nat) (message : String) : Answer :=
          .ends ⟨traced (commands.take (started + 1)) ++ [.err ("xargs: ".toList ++
            command.headD [] ++ ": ".toList ++ message.toList ++ ['\n'])], n, c.tree⟩
        match r.status with
        | .code 0 => go ran worst left (started + 1)
        | .code 126 | .code 127 =>
            .ends ⟨traced (commands.take (started + 1)), r.status.toNat, c.tree⟩
        | .code 255 => stop 124 "exited with status 255; aborting"
        | .code _ => go ran 123 left (started + 1)
        | .signal s => stop 125 ("terminated by signal " ++ toString s.number)
  go c.ran 0 commands 0

def xargs (c : Context) : Answer :=
  let long : List (String × Char × Arity) :=
    [("null", '0', .flag), ("arg-file", 'a', .required), ("delimiter", 'd', .required),
      ("eof", 'e', .optional), ("replace", 'i', .optional), ("max-lines", 'l', .optional),
      ("max-args", 'n', .required), ("max-procs", 'P', .required), ("interactive", 'p', .flag),
      ("no-run-if-empty", 'r', .flag), ("max-chars", 's', .required), ("verbose", 't', .flag),
      ("exit", 'x', .flag), ("open-tty", 'o', .flag)]
  withLeadingOptions c "xargs" 1 "0a:d:E:e::I:i::L:l::n:oP:prs:tx" long fun o =>
    let source := match o.value? 'a' with
      | some file => [file]
      | none => []
    withContents c source fun contents =>
      match (contents.head?.map Prod.snd).getD (.ok []) with
      | .error e =>
          .failure c 1 ("xargs: Cannot open input file ".toList ++ quoted c ((o.value? 'a').getD []) ++
            ": ".toList ++ errorText e)
      | .ok text =>
        let command := if o.operands.isEmpty then ["echo".toList] else o.operands
        let share := shareOf o
        let separator? : Option Char := match o.lastOf "0d" with
          | some '0' => some '\x00'
          | some _ =>
              let mark := (o.value? 'd').getD []
              (Format.unescape (Format.formatEscape .program false) 8 mark).text.head?
          | none => none
        let items? : Except Octets (List (Octets × Bool)) := match separator?, share with
          | some mark, _ => .ok ((markedItems mark text).map fun s => (s, true))
          | none, .inPlaceOf _ =>
              let lines := (Octets.lines text).map fun l =>
                l.dropWhile fun ch => ch == ' ' || ch == '\t'
              (lines.filter fun l => !l.isEmpty).mapM fun line => do
                let words ← inputWords (line.map fun ch => if isSpace ch then '\x01' else ch)
                return ((words.flatMap Prod.fst).map (fun ch => if ch == '\x01' then ' ' else ch),
                  true)
          | none, _ => inputWords text
        match items? with
        | .error message => .failure c 1 ("xargs: ".toList ++ message)
        | .ok items =>
            let items := match o.value? 'E' with
              | some stop => if stop.isEmpty then items else items.takeWhile fun i => i.1 != stop
              | none => items
            let words := items.map Prod.fst
            let limit := ((o.value? 's').bind readNat?).getD 131072
            let room := limit - sizeOf command
            let (batches, fits) : List (List Octets) × Bool := match share with
              | .inPlaceOf _ => ([], true)
              | .lines n =>
                  let batches := (pieces (words.length + 1) n (lineGroups items)).map List.flatten
                  (batches.takeWhile fun b => sizeOf b ≤ room,
                    batches.all fun b => sizeOf b ≤ room)
              | .words n => dealt (some n) room [] words
              | .all => dealt none room [] words
            let commands := match share with
              | .inPlaceOf mark => words.map fun word =>
                  command.map fun a => replaceMark mark word (a.length + 1) a
              | _ =>
                  if words.isEmpty && !o.has 'r' then [command] else batches.map (command ++ ·)
            if o.has 'p' && !commands.isEmpty then
              .failure c 1
                "xargs: failed to open /dev/tty for reading: No such device or address".toList
            else
              runEach c (o.has 't') (if o.has 'a' then none else some [])
                (if fits then none else some "argument line too long".toList) commands

/-! ## Signals -/

def signalNames : Octets :=
  joinWith [' '] (Signal.names.map String.toList) ++ ['\n']

def kill (c : Context) : Answer :=
  let usage := Answer.failure c 1
    "\nUsage:\n kill [options] <pid> [...]\n\nFor more details see kill(1).".toList
  let unknown (name : Octets) : Answer :=
    .failure c 1 ("kill: unknown signal name ".toList ++ name)
  let send (s : Signal) (targets : List Octets) : Answer :=
    let targets := if targets.head? = some "--".toList then targets.drop 1 else targets
    if targets.isEmpty then usage
    else match targets.find? fun t => (readInt? t).isNone with
      | some bad => .failure c 1 ("kill: failed to parse argument: '".toList ++ bad ++ ['\''])
      | none => .signals s (targets.filterMap readInt?)
  let named (name : Octets) (targets : List Octets) : Answer :=
    match Signal.parse? name with
    | some s => send s targets
    | none => unknown name
  match c.args with
  | [] => usage
  | ['-', 's'] :: name :: targets | ['-', 'n'] :: name :: targets => named name targets
  | ['-', 'l'] :: n :: _ =>
      match readNat? n with
      | some n => .ok c ((Signal.names.getD ((if n > 128 then n - 128 else n) - 1) "").toList ++ ['\n'])
      | none =>
          match Signal.parse? n with
          | some s => .ok c (Octets.ofNat s.number ++ ['\n'])
          | none => unknown n
  | ['-', 'l'] :: _ => .ok c signalNames
  | ['-', '-'] :: targets => send .terminate targets
  | ('-' :: name) :: targets => named name targets
  | targets => send .terminate targets

/-! ## Commands that cannot be run -/

def refusal (program : String) (wide : Bool) (command : Octets) (e : IoError) : Octets × Nat :=
  let status := match e with
    | .os ⟨2⟩ => 127
    | _ => 126
  let marked : Octets := if wide then Octets.ofString "‘" ++ command ++ Octets.ofString "’"
    else '\'' :: command ++ ['\'']
  let text : Octets := match program with
    | "env" | "nice" | "find" => marked
    | "nohup" | "timeout" | "stdbuf" => "failed to run command ".toList ++ marked
    | "setsid" => "failed to execute ".toList ++ command
    | _ => command
  (program.toList ++ ": ".toList ++ text ++ ": ".toList ++ errorText e ++
    (if program = "env" && command.contains ' ' then
      "\nenv: use -[v]S to pass options in shebang lines".toList
    else []), status)

end Launching

end Utility

end Conformance
