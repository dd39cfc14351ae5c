import Conformance.Computer.Text.Casing
import Conformance.Computer.Utility.Edit.Script

/-!
# Editing lines

The program `sed`: the commands of a script are applied to each line of the input, each command to
the lines that its addresses select.
-/

namespace Conformance

namespace Utility

namespace Edit

structure Line where
  text : List Char
  ended : Bool
  file : Nat
  isLast : Bool

/-- Where output goes. -/
inductive Sink where
  | main
  | named (file : Octets)
  deriving DecidableEq, Repr

/-- What is put out once the editing of a line is over. -/
inductive Owed where
  | text (s : List Char)
  | file (name : Octets)

/-- A text with the fact that its line is ended. -/
structure Space where
  text : List Char
  ended : Bool

structure State where
  space : Space
  held : Space
  coming : List Line
  number : Nat
  file : Nat
  isLast : Bool
  replaced : Bool
  /-- The ranges that have begun and not ended, by the place of the command, with the line where
  one ends that has a number. -/
  ranges : List (Nat × Option Nat)
  owed : List Owed
  /-- What was put out, newest first, with the number of the file that was edited then. -/
  output : List (Nat × Sink × List Char)
  unended : List Sink
  lastRegex? : Option Regex
  files : List (Octets × List Char)
  calls : Nat

inductive Stop where
  | needsInput (s : State)
  | finished (s : State) (status : Nat)
  | broken (message : String)
  | calls (s : State) (command : List Char)
  | cycle (s : State) (reads : Bool)

abbrev Run := StateT State (Except Stop)

/-- What stays the same while lines are edited. -/
structure Plan where
  commands : Array Command
  quiet : Bool
  separate : Bool
  ending : Char
  width : Nat
  context : Context
  names : Array Octets
  open? : Bool

/-- Puts text out as it is, behind an end for the line before it. -/
def put (p : Plan) (sink : Sink) (s : List Char) : Run Unit :=
  modify fun st =>
    let gap := if st.unended.contains sink then [p.ending] else []
    { st with
      output := (st.file, sink, gap ++ s) :: st.output
      unended := st.unended.filter (· != sink) }

def putSpace (p : Plan) (sink : Sink) (s : Space) : Run Unit := do
  put p sink (if s.ended then s.text ++ [p.ending] else s.text)
  if !s.ended then modify fun st => { st with unended := sink :: st.unended }

def contentOfFile (p : Plan) (file : Octets) : List Char :=
  match contentOf p.context file with
  | .ok s => p.context.characters s
  | .error _ => []

def settle (p : Plan) : Run Unit := do
  let owed := (← get).owed
  for x in owed do
    match x with
    | .text s => put p .main s
    | .file name =>
        let s := contentOfFile p name
        if !s.isEmpty then put p .main s
  modify fun st => { st with owed := [] }

def atEnd (p : Plan) : Run Bool := do
  let st ← get
  if p.separate && st.isLast then return true
  match st.coming with
  | _ :: _ => return false
  | [] => if p.open? then throw (.needsInput (← get)) else return true

/-- Takes the next line, which is put behind the space if it `appends`. -/
def readLine (p : Plan) (appends : Bool) : Run Bool := do
  settle p
  let st ← get
  match st.coming with
  | [] => if p.open? then throw (.needsInput (← get)) else return false
  | line :: coming => do
      let text := if appends then st.space.text ++ p.ending :: line.text else line.text
      set { st with
        space := ⟨text, line.ended⟩
        coming
        number := if p.separate && line.file != st.file then 1 else st.number + 1
        file := line.file
        isLast := line.isLast
        replaced := false }
      return true

def subjectOf (target : Target) (s : List Char) : Regex.Subject := ⟨s.toArray, target.rules⟩

def regexOf (target : Target) : Run Regex := do
  match target.regex?, (← get).lastRegex? with
  | some r, _ => do
      modify fun st => { st with lastRegex? := some r }
      return r
  | none, some r => return r
  | none, none => throw (.broken "no previous regular expression")

def matchesAddress (p : Plan) (a : Address) : Run Bool := do
  let st ← get
  match a with
  | .line n => return st.number = n
  | .every first step => return st.number ≥ first && (st.number - first) % step = 0
  | .final => atEnd p
  | .matching target => do
      let r ← regexOf target
      return (Regex.find? (subjectOf target st.space.text) r 0).isSome

def setRange (place : Nat) (state? : Option (Option Nat)) : Run Unit :=
  modify fun st =>
    let others := st.ranges.filter fun r => r.1 != place
    { st with ranges := (state?.map fun last => (place, last)).toList ++ others }

def selects (p : Plan) (place : Nat) (c : Command) : Run Bool := do
  match c.selection with
  | .all => return true
  | .one a => matchesAddress p a
  | .range first last => do
      let st ← get
      match st.ranges.lookup place with
      | some (some n) => do
          if st.number ≥ n then setRange place none
          return st.number ≤ n
      | some none => do
          match last with
          | .at a => if ← matchesAddress p a then setRange place none
          | _ => setRange place none
          return true
      | none => do
          if !(← matchesAddress p first) then return false
          let n := st.number
          let upTo (m : Nat) : Run Unit := if m > n then setRange place (some (some m)) else pure ()
          match last with
          | .at (.line m) => upTo m
          | .at _ => setRange place (some none)
          | .further m => upTo (n + m)
          | .multiple m => if m > 0 then upTo ((n + m - 1) / m * m)
          return true

/-- What is being done to the letters of a replacement. -/
structure Casing where
  all : Recasing
  next : Recasing

def Casing.apply (c : Casing) (s : List Char) : List Char :=
  let rest := match c.all with
    | .upper => s.map Text.upperOf
    | .lower => s.map Text.lowerOf
    | _ => s
  match c.next, s, rest with
  | .upperOne, first :: _, _ :: rest => Text.upperOf first :: rest
  | .lowerOne, first :: _, _ :: rest => Text.lowerOf first :: rest
  | _, _, rest => rest

def assemble (p : Plan) (t : Regex.Subject) (found : Regex.Match) (casing : Casing) :
    List Piece → List Char
  | [] => []
  | .recase r :: rest =>
      let casing := match r with
        | .upper | .lower => { casing with all := r }
        | .upperOne | .lowerOne => { casing with next := r }
        | .none => ⟨.none, .none⟩
      assemble p t found casing rest
  | piece :: rest =>
      let s := match piece with
        | .text s => p.context.characters s
        | .group n => (found.group? t n).getD []
        | .recase _ => []
      let after := if s.isEmpty then casing else { casing with next := .none }
      casing.apply s ++ assemble p t found after rest

/-- The text with its matches replaced from the place `i` on, where the match before has ended at
`behind?`; fuel bounds the number of matches.  The count tells how many are still left alone. -/
def substituteFrom (p : Plan) (s : Substitution) (t : Regex.Subject) (r : Regex)
    (fuel count i : Nat) (behind? : Option Nat) : List Char × Bool :=
  match fuel with
  | 0 => (t.part i t.size, false)
  | fuel + 1 =>
    match Regex.find? t r i with
    | none => (t.part i t.size, false)
    | some found =>
        let before := t.part i found.first
        let step (count : Nat) : List Char × Bool :=
          if found.first = found.last then
            if found.last < t.size then
              let (rest, done) := substituteFrom p s t r fuel count (found.last + 1) none
              (t.part found.last (found.last + 1) ++ rest, done)
            else ([], false)
          else substituteFrom p s t r fuel count found.last (some found.last)
        if found.first = found.last && behind? = some found.last then
          -- Nothing is not replaced right behind a match.
          let (rest, done) := step count
          (before ++ rest, done)
        else if count > 0 then
          let (rest, done) := step (count - 1)
          (before ++ (if found.first = found.last then [] else t.part found.first found.last) ++ rest,
            done)
        else
          let replaced := before ++ assemble p t found ⟨.none, .none⟩ s.pieces
          if s.everywhere then (replaced ++ (step 0).1, true)
          else (replaced ++ t.part found.last t.size, true)

/-- A text with its special characters spelled out, in lines of a width. -/
def shown (width : Nat) (s : Octets) : Octets :=
  let spell (c : Char) : Octets :=
    if c == '\\' then ['\\', '\\']
    else if ' ' ≤ c && c ≤ '~' then [c]
    else controlEscape c
  let (out, _) := s.foldl (fun ((out, column) : Octets × Nat) c =>
    let x := spell c
    if width > 0 && column + x.length > width - 1 then
      (x.reverse ++ '\n' :: '\\' :: out, x.length)
    else (x.reverse ++ out, column + x.length)) ([], 0)
  ('\n' :: '$' :: out).reverse

def putNumbered (p : Plan) (s : Octets) : Run Unit := put p .main (s ++ ['\n'])

def endCycle (p : Plan) (prints reads : Bool) : Run Nat := do
  if prints && !p.quiet then putSpace p .main (← get).space
  throw (.cycle (← get) reads)

def firstLine (ending : Char) (s : List Char) : List Char := s.takeWhile (· != ending)

def firstSpace (p : Plan) (s : Space) : Space :=
  let first := firstLine p.ending s.text
  ⟨first, s.ended || first.length < s.text.length⟩

def modifySpace (f : List Char → List Char) : Run Unit :=
  modify fun st => { st with space := { st.space with text := f st.space.text } }

def nextLineOf (p : Plan) (file : Octets) : Run (Option (List Char)) := do
  let st ← get
  let left := (st.files.lookup file).getD (contentOfFile p file)
  if left.isEmpty then return none
  let line := firstLine p.ending left
  let line := line ++ (left.drop line.length).take 1
  set { st with files := (file, left.drop line.length) :: st.files.filter fun f => f.1 != file }
  return some line

def outputOf (p : Plan) (command : List Char) : Run (List Char) := do
  let st ← get
  match p.context.ran[st.calls]? with
  | none => throw (.calls st command)
  | some ran => do
      set { st with calls := st.calls + 1 }
      return p.context.characters ran.output

def runSpace (p : Plan) : Run Unit := do
  let s ← outputOf p (← get).space.text
  modifySpace fun _ => if s.getLast? == some p.ending then s.dropLast else s

def placeOf (p : Plan) (label : Octets) : Nat :=
  if label.isEmpty then p.commands.size
  else (p.commands.findIdx? fun c => match c.action with
    | .label name => name = label
    | _ => false).getD p.commands.size

def perform (p : Plan) (place : Nat) (c : Command) : Run Nat := do
  let st ← get
  let goOn : Run Nat := pure (place + 1)
  match c.action with
  | .nothing | .label _ | .opening | .closing => goOn
  | .substitute s => do
      let r ← regexOf s.target
      let t := subjectOf s.target st.space.text
      let (text, done) := substituteFrom p s t r (t.size + 2) (s.first - 1) 0 none
      if done then
        modify fun st => { st with space := { st.space with text }, replaced := true }
        if s.prints && s.runs && s.printsCommand then putSpace p .main (← get).space
        if s.runs then runSpace p
        let space := (← get).space
        if s.prints && !(s.runs && s.printsCommand) then putSpace p .main space
        match s.file? with
        | some file => putSpace p (.named file) space
        | none => pure ()
      goOn
  | .exchange pairs => do
      modifySpace fun s => s.map fun ch => (pairs.lookup ch).getD ch
      goOn
  | .append s => do
      modify fun st => { st with owed := st.owed ++ [.text (p.context.characters s)] }
      goOn
  | .insert s => do
      put p .main (p.context.characters s)
      goOn
  | .change s => do
      if (st.ranges.lookup place).isNone || c.negated then put p .main (p.context.characters s)
      endCycle p false true
  | .delete => endCycle p false true
  | .deleteLine => do
      let first := firstLine p.ending st.space.text
      if first.length = st.space.text.length then endCycle p false true
      else do
        modifySpace (List.drop (first.length + 1))
        endCycle p false false
  | .print => do
      putSpace p .main st.space
      goOn
  | .printLine => do
      putSpace p .main (firstSpace p st.space)
      goOn
  | .show width => do
      put p .main (shown (width.getD p.width) (p.context.ofCharacters st.space.text))
      goOn
  | .number => do
      putNumbered p (Octets.ofNat st.number)
      goOn
  | .fileName => do
      putNumbered p (p.context.characters (p.names[st.file]?.getD ['-']))
      goOn
  | .next => do
      if ← atEnd p then endCycle p true true
      else do
        if !p.quiet then putSpace p .main st.space
        let _ ← readLine p false
        goOn
  | .appendNext => do
      if ← atEnd p then endCycle p true true
      else do
        let _ ← readLine p true
        goOn
  | .hold appends => do
      let held : Space := if appends then
          ⟨st.held.text ++ p.ending :: st.space.text, st.space.ended⟩
        else st.space
      set { st with held }
      goOn
  | .get appends => do
      let space : Space := if appends then
          ⟨st.space.text ++ p.ending :: st.held.text, st.held.ended⟩
        else st.held
      set { st with space }
      goOn
  | .swap => do
      set { st with space := st.held, held := st.space }
      goOn
  | .clear => do
      modifySpace fun _ => []
      goOn
  | .run none => do
      runSpace p
      modify fun st => { st with space := { st.space with ended := true } }
      goOn
  | .run (some command) => do
      put p .main (← outputOf p (p.context.characters command))
      goOn
  | .readFile file => do
      modify fun st => { st with owed := st.owed ++ [.file file] }
      goOn
  | .readLine file => do
      match ← nextLineOf p file with
      | some line => modify fun st => { st with owed := st.owed ++ [.text line] }
      | none => pure ()
      goOn
  | .writeFile file => do
      putSpace p (.named file) st.space
      goOn
  | .writeLine file => do
      putSpace p (.named file) (firstSpace p st.space)
      goOn
  | .quit prints status => do
      if prints then
        if !p.quiet then putSpace p .main st.space
        settle p
        if (← get).unended.contains .main then put p .main []
      throw (.finished (← get) status)
  | .branch when label => do
      let takes ← match when with
        | .always => pure true
        | .replaced => do
            modify fun st => { st with replaced := false }
            pure st.replaced
        | .notReplaced => do
            modify fun st => { st with replaced := false }
            pure !st.replaced
      if takes then return placeOf p label else goOn

/-- Carries out commands from a place on; fuel bounds how many.  The end of the script ends the
cycle. -/
def runFrom (p : Plan) (fuel place : Nat) : Run Unit := do
  match fuel with
  | 0 => throw (.needsInput (← get))
  | fuel + 1 =>
    match p.commands[place]? with
    | none => do
        let _ ← endCycle p true true
    | some c => do
        if (← selects p place c) != c.negated then runFrom p fuel (← perform p place c)
        else match c.action with
          | .opening => runFrom p fuel (closingFrom (p.commands.toList.drop (place + 1)) 0 (place + 1))
          | _ => runFrom p fuel (place + 1)

def cycleLimit : Nat := 1000000

/-- Applies the script to one line after the other; fuel bounds the number of cycles. -/
def runCycles (p : Plan) (fuel : Nat) (reads : Bool) : Run Unit := do
  match fuel with
  | 0 => throw (.needsInput (← get))
  | fuel + 1 => do
      if reads then
        if !(← readLine p false) then throw (.finished (← get) 0)
      else settle p
      match (runFrom p cycleLimit 0).run (← get) with
      | .ok (_, st) => set st
      | .error (.cycle st reads) => do
          set st
          runCycles p fuel reads
      | .error e => throw e

def linesOf (ending : Char) (isOpen : Bool) (file : Nat) (s : List Char) : List Line :=
  let parts : List (List Char) := s.foldr (fun ch parts =>
    if ch == ending then [] :: parts
    else match parts with
      | [] => [[ch]]
      | part :: rest => (ch :: part) :: rest) [[]]
  let whole := parts.dropLast.map fun text => (text, true)
  let all := match parts.getLast? with
    | some (c :: rest) => if isOpen then whole else whole ++ [(c :: rest, false)]
    | _ => whole
  all.zipIdx.map fun ((text, ended), n) =>
    ⟨text, ended, file, !isOpen && n + 1 = all.length⟩

def usage : String :=
  "Usage: sed [OPTION]... \x7bscript-only-if-no-other-script\x7d [input-file]...\n"

/-- Where a fault stands in a script that was given in parts. -/
def placeOfFault (parts : List (Option Octets × Octets)) (n k : Nat) : Octets :=
  match parts with
  | [] => "sed: -e expression #1, char ".toList ++ Octets.ofNat k ++ ": ".toList
  | (file?, s) :: rest =>
      if k ≤ s.length || rest.isEmpty then
        match file? with
        | none =>
            "sed: -e expression #".toList ++ Octets.ofNat n ++ ", char ".toList ++
              Octets.ofNat (min k s.length) ++ ": ".toList
        | some file =>
            "sed: file ".toList ++ file ++ " line ".toList ++
              Octets.ofNat (((s.take (k - 1)).filter (· == '\n')).length + 1) ++ ": ".toList
      else placeOfFault rest (if file?.isNone then n + 1 else n) (k - s.length - 1)

def complaintFor (parts : List (Option Octets × Octets)) (whole : Octets) (f : Fault) : Octets :=
  let shown := match f.message with
    | "unmatched \x60\x7b'" => "sed: -e expression #1, char 0: ".toList
    | _ => placeOfFault parts 1 (whole.length - f.left)
  shown ++ f.message.toList

def longOptions : List (String × Char × Arity) :=
  ([("quiet", 'n', .flag), ("silent", 'n', .flag), ("expression", 'e', .required),
    ("file", 'f', .required), ("in-place", 'i', .optional), ("line-length", 'l', .required),
    ("posix", 'p', .flag), ("regexp-extended", 'E', .flag), ("separate", 's', .flag),
    ("unbuffered", 'u', .flag), ("null-data", 'z', .flag), ("debug", '\x03', .flag),
    ("follow-symlinks", '\x04', .flag), ("sandbox", '\x05', .flag)] :
      List (String × Char × Arity)) ++ commonOptions

def filesRead (commands : List Command) : List Octets :=
  commands.filterMap fun c => match c.action with
    | .readFile file | .readLine file => some file
    | _ => none

def filesWritten (commands : List Command) : List Octets :=
  (commands.filterMap fun c => match c.action with
    | .writeFile file | .writeLine file => some file
    | .substitute s => s.file?
    | _ => none).eraseDups

def quits (commands : List Command) : Bool :=
  commands.any fun c => match c.action with
    | .quit _ _ | .run _ => true
    | .substitute s => s.runs
    | _ => false

def lostLabel? (commands : List Command) : Option Octets :=
  commands.findSome? fun c => match c.action with
    | .branch _ label =>
        if label.isEmpty || commands.any (fun d => match d.action with
            | .label name => name = label
            | _ => false) then none
        else some label
    | _ => none

/-- Puts what was written to named places where it belongs. -/
def deliver (c : Context) (written : List Octets) (st : State) :
    FileTree × List Print :=
  let textFor (file : Octets) : Octets :=
    (st.output.reverse.filter fun (_, sink, _) => sink = .named file).flatMap fun (_, _, s) =>
      c.ofCharacters s
  written.foldl (fun (t, prints) file =>
    if (deviceDescriptor? file).isSome then (t, prints)
    else match writeFile c t file false (textFor file) with
      | .ok (t, more) => (t, prints ++ more)
      | .error e =>
          (t, prints ++ [.err ("sed: couldn't open file ".toList ++ file ++ ": ".toList ++
            errorText e ++ ['\n'])])) (c.workingTree, [])

/-- Puts the edited text of a file in its place, with a copy of the old one under another name. -/
def replaceFile (c : Context) (suffix : Octets) (t : FileTree) (file new : Octets) : FileTree :=
  match t.lookup c.directory (pathOf file) true, t.lookup c.directory (pathOf file) false with
  | .ok (source, .file (.bytes old)), .ok (loc, _) =>
      let mode := ((t.stamp? source).map Stamp.mode).getD 0o644
      let backup := if suffix.contains '*' then
          suffix.flatMap fun ch => if ch == '*' then file else [ch]
        else file ++ suffix
      let t := if suffix.isEmpty then t
        else t.put c.directory (pathOf backup) mode (.file (.bytes old))
      t.insertWith mode loc (.file (.bytes (Octets.toBytes new)))
  | _, _ => t

def edit (c : Context) (o : Options) (commands : List Command) (quiet : Bool)
    (files : List Octets) : Answer :=
  let inPlace := o.has 'i'
  let ending := if o.has 'z' then '\x00' else '\n'
  let isOpen := files.any isInput && !c.inputEnded
  let pipes := files ++ filesRead commands
  let isFull := c.input.length ≥ bufferSize
  let waits := if isOpen && !quits commands && !isFull then some Answer.more
    else need? { c with inputEnded := true } pipes
  match waits with
  | some answer => answer
  | none =>
    -- The files are read before the first command runs.
    let source := if c.ran.isEmpty then c else { c with tree := c.before }
    let read := files.map fun f => (f, contentOf source f)
    let isDirectory (f : Octets) : Bool := c.tree.isDirectory c.directory (pathOf f)
    let complaints : List Print := read.filterMap fun (f, content) =>
      match content with
      | .ok _ => none
      | .error e =>
          if isDirectory f then
            if inPlace then
              some (.err ("sed: couldn't edit ".toList ++ f ++ ": not a regular file\n".toList))
            else some (.err ("sed: read error on ".toList ++ f ++ ": Is a directory\n".toList))
          else some (.err ("sed: can't read ".toList ++ f ++ ": ".toList ++ errorText e ++ ['\n']))
    let broken := !inPlace && read.any fun (f, content) => !content.isOk && isDirectory f
    let readable := if broken then read.takeWhile fun (f, _) => !isDirectory f else read
    let lines := (readable.zipIdx.flatMap fun ((f, content), n) =>
      match content with
      | .ok s => linesOf ending (isInput f && !c.inputEnded) n (c.characters s)
      | .error _ => [])
    let p : Plan :=
      { commands := commands.toArray
        quiet
        separate := o.has 's' || inPlace
        ending
        width := ((o.value? 'l').bind readNat?).getD 70
        context := c
        names := (files.map fun f => if isInput f then ['-'] else f).toArray
        open? := isOpen }
    let start : State :=
      { space := ⟨[], true⟩
        held := ⟨[], true⟩
        coming := lines
        number := 0
        file := (lines.head?.map Line.file).getD 0
        isLast := false
        replaced := false
        ranges := commands.zipIdx.filterMap fun (cmd, n) => match cmd.selection with
          | .range (.line 0) _ => some (n, none)
          | _ => none
        owed := []
        output := []
        unended := []
        lastRegex? := none
        files := []
        calls := 0 }
    let failure := if broken then 4
      else if complaints.isEmpty then 0
      else if read.any (fun (f, content) => !content.isOk && isDirectory f) then 4 else 2
    match (runCycles p (2 * lines.length + cycleLimit) true).run start with
    | .error (.broken message) => 
        .failure c 1 ("sed: -e expression #1, char 0: ".toList ++ message.toList)
    | .error (.finished st status) =>
        let (t, prints) := deliver c (filesWritten commands) st
        let mainText (n? : Option Nat) : Octets :=
          (st.output.reverse.filter fun (n, sink, _) => sink = .main && n?.all (· = n)).flatMap
            fun (_, _, s) => c.ofCharacters s
        let t := if inPlace then
            read.zipIdx.foldl (fun t ((f, content), n) =>
              if content.isOk then
                -- What was never read stays as it is.
                let rest := st.coming.flatMap fun line =>
                  if line.file = n then
                    c.ofCharacters (if line.ended then line.text ++ [ending] else line.text)
                  else []
                replaceFile c ((o.value? 'i').getD []) t f (mainText (some n) ++ rest)
              else t) t
          else t
        let out : List Print := (st.output.reverse.filterMap fun (_, sink, s) =>
          match sink with
          | .main => if inPlace then none else some (.out (c.ofCharacters s))
          | .named file => (deviceDescriptor? file).map fun n => ⟨n, c.ofCharacters s⟩)
        .ends ⟨complaints ++ prints ++ out, if status > 0 then status % 256 else failure, t⟩
    | .error (.calls st command) =>
        -- The files that are written to are there, and nothing is in them yet.
        .calls [] (deliver c (filesWritten commands) { st with output := [] }).1
          ⟨["sh".toList, "-c".toList, c.ofCharacters command], c.environment, none, true⟩
    | .error (.needsInput st) =>
        if isFull && !inPlace then
          .shows (st.output.reverse.flatMap fun (_, sink, s) =>
            if sink = .main then c.ofCharacters s else [])
        else .more
    | _ => .more

def run (c : Context) : Answer :=
  match Options.read "nEre:f:i::l:suzb" longOptions c.args with
  | .error message =>
      .failure c 1 ("sed: ".toList ++ message ++ ['\n'] ++ usage.toList)
  | .ok o =>
    let given := o.given.filter fun g => g.1 == 'e' || g.1 == 'f'
    let scriptFiles := o.values 'f'
    if o.has versionLetter then .ok c (versionText "sed").toList
    else if given.isEmpty && o.operands.isEmpty then .failure c 1 usage.toList
    else match need? c scriptFiles with
      | some answer => answer
      | none =>
        match scriptFiles.findSome? fun f => match contentOf c f with
            | .ok _ => none
            | .error e => some (f, e) with
        | some (f, e) =>
            .failure c 4 ("sed: couldn't open file ".toList ++ f ++ ": ".toList ++ errorText e)
        | none =>
          let parts : List (Option Octets × Octets) := if given.isEmpty then
              (o.operands.take 1).map fun s => (none, s)
            else given.map fun (letter, s) =>
              if letter == 'e' then (none, s)
              else
                let text := (contentOf c s).toOption.getD []
                (some s, if text.getLast? == some '\n' then text.dropLast else text)
          let files := if given.isEmpty then o.operands.drop 1 else o.operands
          let whole := joinWith ['\n'] (parts.map Prod.snd)
          let reading : Reading :=
            ⟨if o.has 'E' || o.has 'r' then .extended else .basic, c.isWide⟩
          match parse reading whole with
          | .error fault =>
              if fault.message = bareClass then .failure c 4 ("sed: " ++ fault.message).toList
              else .failure c 1 (complaintFor parts whole fault)
          | .ok commands =>
            match lostLabel? commands with
            | some label =>
                .failure c 4 ("sed: can't find label for jump to \x60".toList ++ label ++ ['\''])
            | none =>
              let reaches (d : Command) : Bool := match d.action with
                | .run _ | .readFile _ | .readLine _ | .writeFile _ | .writeLine _ => true
                | .substitute s => s.runs || s.file?.isSome
                | _ => false
              let quiet := o.has 'n' || ['#', 'n'].isPrefixOf whole
              if o.has '\x05' && commands.any reaches then
                .failure c 1 ("sed: -e expression #1, char " ++ toString whole.length ++
                  ": e/r/w commands disabled in sandbox mode").toList
              else if o.has 'i' && files.isEmpty then .failure c 4 "sed: no input files".toList
              else edit c o commands quiet (if files.isEmpty then [['-']] else files)

end Edit

end Utility

end Conformance
