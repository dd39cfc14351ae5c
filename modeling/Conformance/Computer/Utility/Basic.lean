import Conformance.Computer.Machine.Signal
import Conformance.Computer.Text.Octets
import Conformance.FileTree.Walk

/-!
# Utilities

An installed program is a function from its arguments, the input read so far and the file tree to an
answer: that it needs more input, that it waits, that it runs another program, or that it ends with
output, a status and a changed file tree.  A program that has run another one is asked again with
the outcome.
-/

namespace Conformance

namespace Utility

/-- What became of a command that a program has run. -/
structure Ran where
  status : ExitStatus
  output : Octets
  tree : FileTree
  deriving Repr

structure Context where
  args : List Octets
  environment : List (Octets × Octets)
  tree : FileTree
  before : FileTree
  directory : Location
  input : Octets
  inputEnded : Bool
  inputFailure : Option IoError
  group : Nat
  id : Nat
  parent : Nat
  mask : Nat
  now : Nat
  gathered : List (Octets × Except IoError Octets)
  ran : List Ran
  descriptors : List (Nat × Option Location)
  niceness : Int

structure Print where
  descriptor : Nat
  text : Octets
  deriving Repr

namespace Print

def out (s : Octets) : Print := ⟨1, s⟩

def err (s : Octets) : Print := ⟨2, s⟩

def isOut (p : Print) : Bool := p.descriptor == 1

end Print

structure Result where
  prints : List Print
  status : Nat
  tree : FileTree
  deriving Repr

structure Call where
  args : List Octets
  environment : List (Octets × Octets)
  input : Option Octets
  captures : Bool
  deriving Repr

/-- How a command is watched over: the time it has, the signal it gets then, and the time from there
until it is killed. -/
structure Limit where
  micros : Nat
  signal : Signal
  grace : Option Nat
  foreground : Bool
  keepsStatus : Bool
  deriving Repr

/-- Another program that a program turns into. -/
structure Replacement where
  args : List Octets
  environment : List (Octets × Octets)
  /-- The process gets a group of its own; `none` leaves it in the one it is in.  A process that
  leads its group leaves the work to a new process, for which it waits if told so. -/
  apart : Option Bool
  ignored : List Signal
  directory : Location
  niceness : Int
  deriving Repr

inductive Answer where
  | more
  | ends (r : Result)
  | pause (s : Octets) (micros : Nat)
  | goesOn (s : Octets)
  | passesOn (s : Octets)
  /-- Prints what it makes of the input so far, of which it has printed the beginning before, and
  needs more. -/
  | shows (s : Octets)
  | becomes (r : Replacement)
  | signals (s : Signal) (targets : List Int)
  | gathers (file : Octets)
  /-- Prints what it has to print up to here, of which it has printed the beginning before, changes
  the tree and runs a command. -/
  | calls (prints : List Print) (tree : FileTree) (call : Call)
  | guards (args : List Octets) (limit : Limit)

namespace Answer

def runs (c : Context) (args : List Octets) : Answer :=
  .becomes ⟨args, c.environment, none, [], c.directory, c.niceness⟩

def ok (c : Context) (output : Octets) : Answer :=
  .ends ⟨if output.isEmpty then [] else [.out output], 0, c.tree⟩

def status (c : Context) (n : Nat) : Answer := .ends ⟨[], n, c.tree⟩

def failure (c : Context) (n : Nat) (message : Octets) : Answer :=
  .ends ⟨[.err (message ++ ['\n'])], n, c.tree⟩

end Answer

namespace Context

def isWide (c : Context) : Bool :=
  match (["LC_ALL", "LC_CTYPE", "LANG"].filterMap fun x => c.environment.lookup x.toList).find?
      (fun s => !s.isEmpty) with
  | some s =>
      let upper := s.map Char.toUpper
      (List.range upper.length).any fun n =>
        "UTF-8".toList.isPrefixOf (upper.drop n) || "UTF8".toList.isPrefixOf (upper.drop n)
  | none => false

def characters (c : Context) (s : Octets) : List Char := if c.isWide then Octets.toWide s else s

def ofCharacters (c : Context) (s : List Char) : Octets := if c.isWide then Octets.ofWide s else s

def masked (c : Context) (mode : Nat) : Nat := mode &&& (0o7777 ^^^ (c.mask &&& 0o7777))

def workingTree (c : Context) : FileTree := c.tree.atTime c.now

end Context

/-! ## Words and numbers -/

def pathOf (s : Octets) : Path := ⟨Octets.toText s⟩

def errorText : IoError → Octets
  | .os e => e.text.toList
  | e => e.message.toList

def isSpace (c : Char) : Bool := c == ' ' || ('\t' ≤ c && c ≤ '\r')

def wordsOf (s : Octets) : List Octets :=
  (s.foldr (fun c (words : List Octets) =>
    if isSpace c then [] :: words
    else match words with
      | [] => [[c]]
      | word :: rest => (c :: word) :: rest) [[]]).filter fun w => !w.isEmpty

def readNat? (s : Octets) : Option Nat :=
  if s.isEmpty || !s.all Char.isDigit then none
  else some (s.foldl (fun n d => 10 * n + (d.toNat - '0'.toNat)) 0)

def readInt? (s : Octets) : Option Int :=
  match s with
  | '-' :: digits => (readNat? digits).map fun n => -(n : Int)
  | '+' :: digits => (readNat? digits).map fun n => (n : Int)
  | digits => (readNat? digits).map fun n => (n : Int)

def spaces (n : Nat) : Octets := List.replicate n ' '

def padLeft (width : Nat) (s : Octets) : Octets := spaces (width - s.length) ++ s

def padRight (width : Nat) (s : Octets) : Octets := s ++ spaces (width - s.length)

def joinWith (separator : Octets) (l : List Octets) : Octets := List.intercalate separator l

/-- The parts of a text between the places where a character stands. -/
def splitAt (c : Char) (s : Octets) : List Octets :=
  s.foldr (fun d (parts : List Octets) =>
    if d == c then [] :: parts
    else match parts with
      | [] => [[d]]
      | part :: rest => (d :: part) :: rest) [[]]

/-! ## Options -/

/-- Whether an option takes an argument. -/
inductive Arity where
  | flag
  | required
  | optional
  deriving DecidableEq, Repr

/-- What arguments ask for: options with their arguments in order, and the operands. -/
structure Options where
  given : List (Char × Octets)
  operands : List Octets
  deriving Repr

namespace Options

def has (o : Options) (letter : Char) : Bool := o.given.any (·.1 == letter)

def hasAny (o : Options) (letters : String) : Bool := letters.toList.any o.has

def value? (o : Options) (letter : Char) : Option Octets :=
  (o.given.reverse.find? (·.1 == letter)).map Prod.snd

def values (o : Options) (letter : Char) : List Octets :=
  (o.given.filter (·.1 == letter)).map Prod.snd

def lastOf (o : Options) (letters : String) : Option Char :=
  (o.given.reverse.find? fun g => letters.toList.contains g.1).map Prod.fst

/-- The arity of a letter in a list in which a colon stands behind an option that takes an argument,
and two where it may. -/
def arityOf? (letter : Char) : List Char → Option Arity
  | [] => none
  | c :: ':' :: ':' :: rest => if c == letter then some .optional else arityOf? letter rest
  | c :: ':' :: rest => if c == letter then some .required else arityOf? letter rest
  | c :: rest => if c == letter then some .flag else arityOf? letter rest

def readLetters (short : List Char) : Octets → List Octets →
    Except Octets (List (Char × Octets) × List Octets)
  | [], rest => .ok ([], rest)
  | c :: letters, rest =>
      match (if c == ':' then none else arityOf? c short) with
      | none => .error ("invalid option -- '".toList ++ [c, '\''])
      | some .flag => do
          let (more, rest) ← readLetters short letters rest
          return ((c, []) :: more, rest)
      | some .optional => .ok ([(c, letters)], rest)
      | some .required =>
          if !letters.isEmpty then .ok ([(c, letters)], rest)
          else match rest with
            | value :: rest => .ok ([(c, value)], rest)
            | [] => .error ("option requires an argument -- '".toList ++ [c, '\''])

/-- The long options that a name may stand for: itself, or those that begin with it. -/
def longMatches (long : List (String × Char × Arity)) (name : Octets) :
    List (String × Char × Arity) :=
  match long.filter fun l => l.1.toList = name with
  | [] => long.filter fun l => name.isPrefixOf l.1.toList
  | exact => exact

def readLong (long : List (String × Char × Arity)) (word : Octets) (rest : List Octets) :
    Except Octets ((Char × Octets) × List Octets) :=
  let name := word.takeWhile (· != '=')
  let value? : Option Octets := match word.drop name.length with
    | [] => none
    | _ :: value => some value
  let marked (s : Octets) : Octets := "'--".toList ++ s ++ ['\'']
  match longMatches long name with
  | [] => .error ("unrecognized option ".toList ++ marked word)
  | (full, letter, arity) :: others =>
      if others.any fun l => l.2.1 != letter then
        .error ("option ".toList ++ marked name ++ " is ambiguous; possibilities:".toList ++
          ((full, letter, arity) :: others).flatMap fun l => ' ' :: marked l.1.toList)
      else match arity, value? with
        | .flag, some _ =>
            .error ("option ".toList ++ marked full.toList ++
              " doesn't allow an argument".toList)
        | .flag, none => .ok ((letter, []), rest)
        | .optional, value? => .ok ((letter, value?.getD []), rest)
        | .required, some value => .ok ((letter, value), rest)
        | .required, none =>
            match rest with
            | value :: rest => .ok ((letter, value), rest)
            | [] => .error ("option ".toList ++ marked full.toList ++
                " requires an argument".toList)

/-- Where a program takes its operands. -/
inductive Placing where
  | scattered
  | last
  | ordered
  deriving DecidableEq, Repr

/-- The letter under which a program finds an operand whose place among the options matters. -/
def operandLetter : Char := '\x03'

/-- Reads arguments.  Fuel bounds the number of arguments. -/
def readFrom (short : List Char) (long : List (String × Char × Arity)) (placing : Placing)
    (fuel : Nat) (args : List Octets) : Except Octets Options := do
  match fuel, args with
  | 0, _ | _, [] => return ⟨[], []⟩
  | fuel + 1, arg :: rest =>
      match arg with
      | ['-', '-'] => return ⟨[], rest⟩
      | '-' :: '-' :: word => do
          let (option, rest) ← readLong long word rest
          let o ← readFrom short long placing fuel rest
          return { o with given := option :: o.given }
      | '-' :: c :: letters => do
          let (options, rest) ← readLetters short (c :: letters) rest
          let o ← readFrom short long placing fuel rest
          return { o with given := options ++ o.given }
      | operand =>
          match placing with
          | .last => return ⟨[], operand :: rest⟩
          | .scattered => do
              let o ← readFrom short long placing fuel rest
              return { o with operands := operand :: o.operands }
          | .ordered => do
              let o ← readFrom short long placing fuel rest
              return { o with given := (operandLetter, operand) :: o.given }

/-- Reads the arguments of a program whose options are written as letters, with colons behind those
that take arguments, and as words. -/
def read (short : String) (long : List (String × Char × Arity)) (args : List Octets) :
    Except Octets Options :=
  readFrom short.toList long .scattered (args.length + 1) args

/-- Reads the arguments of a program whose options end at the first operand. -/
def readLeading (short : String) (long : List (String × Char × Arity)) (args : List Octets) :
    Except Octets Options :=
  readFrom short.toList long .last (args.length + 1) args

/-- Reads the arguments of a program that asks for operands in their order with the options. -/
def readOrdered (short : String) (long : List (String × Char × Arity)) (args : List Octets) :
    Except Octets Options :=
  readFrom short.toList long .ordered (args.length + 1) args

end Options

def versionLetter : Char := '\x01'

def helpLetter : Char := '\x02'

def versionText (program : String) : String :=
  program ++ (match program with
    | "sed" => " (GNU sed) 4.9\n"
    | "xargs" => " (GNU findutils) 4.9.0\n"
    | "cmp" => " (GNU diffutils) 3.8\n"
    | "dd" => " (coreutils) 9.1\n"
    | _ => " (GNU coreutils) 9.1\n")

def withReadOptions (c : Context) (program : String) (failure : Nat)
    (read : Except Octets Options) (k : Options → Answer) : Answer :=
  match read with
  | .error message =>
      .failure c failure (program.toList ++ ": ".toList ++ message ++ "\nTry '".toList ++
        program.toList ++ " --help' for more information.".toList)
  | .ok o =>
      if o.has helpLetter then .ok c ("Usage: ".toList ++ program.toList ++ " [OPTION]...\n".toList)
      else if o.has versionLetter then .ok c (versionText program).toList
      else k o

def commonOptions : List (String × Char × Arity) :=
  [("version", versionLetter, .flag), ("help", helpLetter, .flag)]

def withOptions (c : Context) (program : String) (failure : Nat) (short : String)
    (long : List (String × Char × Arity)) (k : Options → Answer) : Answer :=
  withReadOptions c program failure (Options.read short (long ++ commonOptions) c.args) k

def withLeadingOptions (c : Context) (program : String) (failure : Nat) (short : String)
    (long : List (String × Char × Arity)) (k : Options → Answer) : Answer :=
  withReadOptions c program failure (Options.readLeading short (long ++ commonOptions) c.args) k

/-! ## Messages -/

def quoted (c : Context) (s : Octets) : Octets :=
  if c.isWide then Octets.ofString "‘" ++ s ++ Octets.ofString "’"
  else '\'' :: s ++ ['\'']

def isShellSpecial (isFirst isOnly : Bool) (c : Char) : Bool :=
  c < '!' || c == '\x7f' || "!\"$&'()*;<=>?[\\^|".toList.contains c || c == '`' ||
    (isFirst && (c == '#' || c == '~')) || (isOnly && (c == '{' || c == '}'))

def controlEscape (c : Char) : Octets :=
  match c with
  | '\x07' => "\\a".toList
  | '\x08' => "\\b".toList
  | '\t' => "\\t".toList
  | '\n' => "\\n".toList
  | '\x0b' => "\\v".toList
  | '\x0c' => "\\f".toList
  | '\r' => "\\r".toList
  | c =>
      let digits := Nat.toDigits 8 c.toNat
      '\\' :: List.replicate (3 - digits.length) '0' ++ digits

def shellWord (always : Bool) (s : Octets) : Octets :=
  let special := (s.zipIdx).any fun (c, n) => isShellSpecial (n = 0) (s.length = 1) c
  let control (c : Char) : Bool := c < ' ' || c == '\x7f'
  -- Double quotes serve where nothing else in the text means something inside them.
  let simple (c : Char) : Bool :=
    c.isAlphanum || " #~'%+,-./:]_@\x7b\x7d".toList.contains c || c.toNat ≥ 0x80
  if !s.isEmpty && !special && !always then s
  else if s.contains '\'' && s.all simple then '"' :: s ++ ['"']
  else if s.any control then
    let (text, inEscape) := s.foldl (fun ((text, inEscape) : Octets × Bool) c =>
      if control c then
        ((controlEscape c).reverse ++ (if inEscape then text else "'$'".toList.reverse ++ text),
          true)
      else
        let text := if inEscape then "''".toList ++ text else text
        (if c == '\'' then "'\\''".toList.reverse ++ text else c :: text, false)) (['\''], false)
    let _ := inEscape
    ('\'' :: text).reverse
  else '\'' :: s.flatMap (fun c => if c == '\'' then "'\\''".toList else [c]) ++ ['\'']

def quotedName (s : Octets) : Octets := shellWord true s

/-- What a word stands for that is one of some, or the beginning of no two that mean different
things. -/
def choice? {α : Type} [DecidableEq α] (words : List (String × α)) (s : Octets) : Option α :=
  match words.find? fun w => w.1.toList = s with
  | some (_, value) => some value
  | none =>
      match words.filter fun w => s.isPrefixOf w.1.toList with
      | [] => none
      | (_, value) :: others => if others.all fun w => w.2 = value then some value else none

def about (program doing : String) (file : Octets) (e : IoError) : Octets :=
  (program ++ ": " ++ doing ++ " ").toList ++ quotedName file ++ ": ".toList ++ errorText e

def tryHelp (program : String) : Octets :=
  ("\nTry '" ++ program ++ " --help' for more information.").toList

def missingOperand (c : Context) (program : String) : Answer :=
  .failure c 1 (program.toList ++ ": missing operand".toList ++ tryHelp program)

def extraOperand (c : Context) (program : String) (operand : Octets) : Answer :=
  .failure c 1 (program.toList ++ ": extra operand ".toList ++ quoted c operand ++
    tryHelp program)

/-! ## Reading files -/

/-- How much input is waited for before a program shows what it makes of it. -/
def bufferSize : Nat := 65536

def deviceDescriptor? (file : Octets) : Option Nat :=
  let named := [("/dev/stdin", 0), ("/dev/stdout", 1), ("/dev/stderr", 2)]
  match named.find? fun (name, _) => name.toList = file with
  | some (_, n) => some n
  | none =>
      (["/dev/fd/", "/proc/self/fd/"].find? fun p => p.toList.isPrefixOf file).bind fun p =>
        readNat? (file.drop p.length)

def isInput (file : Octets) : Bool := file = ['-'] || deviceDescriptor? file = some 0

def isPipe (c : Context) (file : Octets) : Bool :=
  (deviceDescriptor? file).isSome ||
    (match c.before.lookup c.directory (pathOf file) true with
      | .ok (_, .file .fifo) => true
      | _ => false)

def isZeros (c : Context) (file : Octets) : Bool :=
  match c.before.lookup c.directory (pathOf file) true with
  | .ok (_, .file .zeros) => true
  | _ => false

/-- What is needed before a file can be read: input, or what comes out of a pipe. -/
def need? (c : Context) (files : List Octets) : Option Answer :=
  if files.any isInput && !c.inputEnded then some .more
  else (files.find? fun f => !isInput f && isPipe c f && (c.gathered.lookup f).isNone).map .gathers

def contentOf (c : Context) (file : Octets) : Except IoError Octets :=
  if isInput file then
    match c.inputFailure with
    | some e => .error e
    | none => .ok c.input
  else match c.gathered.lookup file with
    | some result => result
    | none => (c.tree.read c.directory (pathOf file)).map Octets.ofBytes

/-- Goes on with what each file holds; without files, with the input. -/
def withContents (c : Context) (files : List Octets)
    (k : List (Octets × Except IoError Octets) → Answer) : Answer :=
  let files := if files.isEmpty then [['-']] else files
  match need? c files with
  | some answer => answer
  | none =>
      -- The input can be read only once.
      let first := files.findIdx isInput
      k (files.zipIdx.map fun (f, n) =>
        (f, if isInput f && n > first then .ok [] else contentOf c f))

def unreadable (program : String) (file : Octets) (e : IoError) : Print :=
  let name := if file.any (fun ch => isShellSpecial false false ch) then quotedName file else file
  .err (program.toList ++ ": ".toList ++ name ++ ": ".toList ++ errorText e ++ ['\n'])

/-- Prints what a function makes of all input, or of each part of it as it comes where the parts can
be told apart. -/
def filterInput (c : Context) (inParts : Bool) (f : Octets → Octets) : Answer :=
  if c.inputEnded then .ok c (f c.input)
  else if inParts && !c.input.isEmpty then .passesOn (f c.input)
  else .more

/-- Prints what a function makes of each file; a file that cannot be read fails the whole. -/
def filterFiles (program : String) (c : Context) (files : List Octets) (f : Octets → Octets) :
    Answer :=
  withContents c files fun contents =>
    .ends ⟨contents.map fun (file, content) =>
        match content with
        | .ok s => .out (f s)
        | .error e => unreadable program file e,
      if contents.any (fun (_, content) => !content.isOk) then 1 else 0, c.tree⟩

/-- Puts a text into a file, which is made if it is not there; devices take it as they do. -/
def writeFile (c : Context) (t : FileTree) (file : Octets) (append : Bool) (s : Octets) :
    Except IoError (FileTree × List Print) := do
  match deviceDescriptor? file with
  | some n =>
      if (c.descriptors.lookup n).isSome then return (t, [⟨n, s⟩]) else throw (.os .noEntry)
  | none => do
      let spot ← t.locate c.directory (pathOf file) true
      match spot.found? with
      | none =>
          if !t.mayWrite spot.location.dropLast then throw (.os .accessDenied)
          return (t.insertWith (c.masked 0o666) spot.location (.file (.bytes (Octets.toBytes s))),
            [])
      | some .directory => throw (.os .isDirectory)
      | some (.link _) => throw (.os .linkLoop)
      | some (.file content) =>
          if !t.mayWrite spot.location then throw (.os .accessDenied)
          match content, t.stamp? spot.location with
          | .full, _ => throw (.os ⟨28⟩)
          | .bytes old, some stamp =>
              let new := Octets.toBytes s
              return (t.rewrite stamp.number (.bytes (if append then old ++ new else new)), [])
          | .program _, some stamp =>
              return (t.rewrite stamp.number (.bytes (Octets.toBytes s)), [])
          | _, _ => return (t, [])

end Utility

end Conformance
