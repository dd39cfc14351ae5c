import Conformance.Computer.Utility.Launching
import Conformance.Computer.Utility.Seek.Layout

/-!
# Reading what to search for

The arguments of a search are options on links, the paths to set out from, and a condition.  The
words of the condition are read one by one into marks and leaves, and these are joined: "not" binds
most tightly, then "and", which may be left out, then "or", then the comma.
-/

namespace Conformance

namespace Utility

namespace Seek

inductive Following where
  | never
  | atStart
  | always
  deriving DecidableEq, Repr

/-- How the tree is gone through. -/
structure Manner where
  following : Following
  depthFirst : Bool
  least : Nat
  most : Option Nat

structure Request where
  manner : Manner
  paths : List Octets
  condition : Condition
  outputs : List Octets

/-- The words of a condition. -/
inductive Token where
  | opening
  | closing
  | negation
  | conjunction
  | disjunction
  | comma
  | leaf (c : Condition)

/-- The ways in which paths can be described by expressions. -/
inductive Style where
  | basic
  | extended
  /-- Repetition signs need no backslash, and groups do. -/
  | mixed
  deriving DecidableEq, Repr

/-- What reading the words changes. -/
structure Reading where
  args : List Octets
  manner : Manner
  style : Style
  fromMidnight : Bool
  commands : Nat
  outputs : List Octets
  last : Octets
  /-- Some action was asked for that makes the search go depth first, and some that needs the
  opposite. -/
  deletes : Bool
  prunes : Bool
  setDepth : Bool

abbrev Reader := StateT Reading (Except Octets)

/-- A word between the marks that messages use for words of the condition. -/
def spelled (s : Octets) : Octets := Char.ofNat 96 :: s ++ ['\'']

def argument : Reader Octets := do
  let r ← get
  match r.args with
  | a :: rest => do
      set { r with args := rest }
      return a
  | [] => throw ("missing argument to ".toList ++ spelled r.last)

def bad {α : Type} (a : Octets) : Reader α := do
  throw ("invalid argument ".toList ++ spelled a ++ " to ".toList ++ spelled (← get).last)

def amount? (s : Octets) : Option Amount :=
  match s with
  | '+' :: digits => (readNat? digits).map fun n => ⟨.more, n⟩
  | '-' :: digits => (readNat? digits).map fun n => ⟨.less, n⟩
  | digits => (readNat? digits).map fun n => ⟨.exactly, n⟩

def amount : Reader Amount := do
  let a ← argument
  match amount? a with
  | some n => return n
  | none => bad a

def level (c : Context) : Reader Nat := do
  let a ← argument
  match readNat? a with
  | some n => return n
  | none => throw ("Expected a positive decimal integer argument to ".toList ++ (← get).last ++
      ", but got ".toList ++ quoted c a)

def unitSize? : Octets → Option Nat
  | [] | ['b'] => some 512
  | ['c'] => some 1
  | ['w'] => some 2
  | ['k'] => some 1024
  | ['M'] => some (1024 ^ 2)
  | ['G'] => some (1024 ^ 3)
  | _ => none

def readSize : Reader Test := do
  let a ← argument
  let letter := (a.drop (a.length - 1)).filter fun ch => !ch.isDigit
  match unitSize? letter, amount? (a.take (a.length - letter.length)) with
  | some unit, some n => return .size n unit
  | none, _ => throw ("invalid -size type ".toList ++ spelled letter)
  | some _, none => throw ("Invalid argument ".toList ++ spelled a ++ " to -size".toList)

def readMode (c : Context) : Reader Test := do
  let a ← argument
  let (bound, text) : Bound × Octets := match a with
    | '-' :: rest => (.less, rest)
    | '/' :: rest => (.more, rest)
    | text => (.exactly, text)
  match Files.changedMode? false 0 text 0 with
  | some bits => return .mode bound bits
  | none => throw ("invalid mode ".toList ++ quoted c a)

/-- The time at which the entry at a path was used last in a way. -/
def timeOf (c : Context) (way : Way) (file : Octets) : Reader Int := do
  match c.before.lookup c.directory (pathOf file) true with
  | .ok (loc, _) => return (((c.before.stamp? loc).map way.time).getD 0 : Nat)
  | .error e => throw (quoted c file ++ ": ".toList ++ errorText e)

def readAge (c : Context) (way : Way) (seconds : Nat) : Reader Test := do
  let a ← argument
  let r ← get
  let digits := if a.head? == some '+' || a.head? == some '-' then a.drop 1 else a
  match amount? (a.take (a.length - digits.length) ++ digits.takeWhile (· != '.')) with
  | none => bad a
  | some n =>
      let second : Int := 1000000
      let unit : Int := second * (seconds : Nat)
      let day := 86400 * second
      let now : Int := (c.now : Nat)
      let now := if r.fromMidnight then (now / day + 1) * day else now
      -- Days are counted whole, minutes as begun.
      let shift : Int := if seconds = 60 then 0 else unit
      let past := now - unit * (n.value : Nat)
      return match n.bound with
        | .less => .used way (some past) none
        | .more => .used way none (some (past - shift))
        | .exactly => .used way (some (past - shift)) (some (past - shift + unit + 1))

/-- A comparison with the time of another file, or with a time that is given. -/
def readNewer (c : Context) (letters : Octets) : Reader Test := do
  let a ← argument
  match letters with
  | [x, 't'] =>
      match "acmB".toList.contains x, Calendar.readDate? c.now a with
      | true, some (seconds, nanos) =>
          return .used (.ofLetter x) (some (seconds * 1000000 + ((nanos / 1000 : Nat) : Int))) none
      | _, _ => throw ("I cannot figure out how to interpret ".toList ++ quoted c a ++
          " as a date or time".toList)
  | [x, y] => return .used (.ofLetter x) (some (← timeOf c (.ofLetter y) a)) none
  | _ => return .used .changed (some (← timeOf c .changed a)) none

def readRegex (m : Comparison) : Reader Test := do
  let a ← argument
  let text := m.characters a
  let style := (← get).style
  let r? := match style with
    | .extended => Regex.parse .extended text
    | .basic => Regex.parse .basic text
    | .mixed => Regex.parse .basic (Regex.toBasic text)
  match r? with
  | some r => return .matches m r
  | none =>
      let d : Regex.Dialect := if style = .extended then .extended else .basic
      throw ("failed to compile regular expression '".toList ++ a ++ "': ".toList ++
        (Regex.complaint d a).toList)

def readStyle (c : Context) : Reader Unit := do
  let a ← argument
  let named (names : List String) : Bool := names.any fun n => n.toList = a
  let style : Style ←
    if named ["posix-extended", "egrep", "posix-egrep", "awk", "posix-awk", "gnu-awk"] then
      pure .extended
    else if named ["posix-basic", "grep", "ed", "sed", "posix-minimal-basic"] then pure .basic
    else if named ["emacs", "findutils-default"] then pure .mixed
    else throw ("Unknown regular expression type ".toList ++ quoted c a)
  modify fun r => { r with style }

def readKind (view : View) : Reader Test := do
  let a ← argument
  let name := (← get).last
  let letters := splitAt ',' a
  match letters.find? fun l => l.length != 1 || !"bcdpflsD".toList.contains (l.headD ' ') with
  | some [] =>
      if a.isEmpty then throw ("Arguments to ".toList ++ name ++
        " should contain at least one letter".toList)
      else throw ("Last file type in list argument to ".toList ++ name ++
        " is missing, i.e., list is ending on: ','".toList)
  | some (l :: _ :: _) =>
      if "bcdpflsD".toList.contains l then
        throw ("Must separate multiple arguments to ".toList ++ name ++ " using: ','".toList)
      else throw ("Unknown argument to ".toList ++ name ++ ": ".toList ++ [l])
  | some [l] => throw ("Unknown argument to ".toList ++ name ++ ": ".toList ++ [l])
  | none => return .kind view letters.flatten

def commandWords (many : Bool) : List Octets → List Octets → Option (List Octets × Bool × List Octets)
  | _, [] => none
  | done, [';'] :: rest => some (done.reverse, false, rest)
  | done, a :: rest =>
      if many && a = ['+'] && done.head? == some "\x7b\x7d".toList then
        some (done.reverse.dropLast, true, rest)
      else commandWords many (a :: done) rest

def readCommand (inside asks : Bool) : Reader Action := do
  let r ← get
  match commandWords (!asks) [] r.args with
  | none => throw ("missing argument to ".toList ++ spelled r.last)
  | some (words, gathers, rest) =>
      if words.isEmpty then
        if gathers || r.args.length > rest.length then
          throw ("invalid argument ".toList ++ spelled (if gathers then ['+'] else [';']) ++
            " to ".toList ++ spelled r.last)
        else throw ("missing argument to ".toList ++ spelled r.last)
      if gathers && words.any fun w => (Launching.replaceMark "\x7b\x7d".toList [] w.length w) != w then
        throw ("Only one instance of \x7b\x7d is supported with ".toList ++ r.last ++ " ... +".toList)
      set { r with args := rest, commands := r.commands + 1 }
      return .run ⟨r.commands, words, gathers, inside, asks⟩

def readOwner (c : Context) (kind : String) (numbered : Bool) : Reader Test := do
  let a ← argument
  if numbered then
    match amount? a with
    | some n => return .constant (n.fits 0)
    | none => bad a
  else if a = Person.userName then return .constant true
  else match readNat? a with
    | some n => return .constant (n = 0)
    | none => throw (quoted c a ++ (" is not the name of " ++ kind).toList)

def outputFile : Reader Octets := do
  let a ← argument
  modify fun r => { r with outputs := r.outputs ++ [a] }
  return a

def leaf (t : Test) : Token := .leaf (.test t)

def doing (a : Action) : Token := .leaf (.act a)

def nothing : Token := leaf (.constant true)

def readManner (f : Manner → Manner) : Reader Token := do
  modify fun r => { r with manner := f r.manner }
  return nothing

def tokenOf (c : Context) (word : String) : Reader Token := do
  let pattern (f : Octets → Test) : Reader Token := return leaf (f (← argument))
  let exactly : Comparison := ⟨c.isWide, false⟩
  let loosely : Comparison := ⟨c.isWide, true⟩
  match word with
  | "(" => return .opening
  | ")" => return .closing
  | "!" | "-not" => return .negation
  | "-a" | "-and" => return .conjunction
  | "-o" | "-or" => return .disjunction
  | "," => return .comma
  | "-name" => pattern (.name exactly)
  | "-iname" => pattern (.name loosely)
  | "-path" | "-wholename" => pattern (.path exactly)
  | "-ipath" | "-iwholename" => pattern (.path loosely)
  | "-lname" => pattern (.target exactly)
  | "-ilname" => pattern (.target loosely)
  | "-regex" => return leaf (← readRegex exactly)
  | "-iregex" => return leaf (← readRegex loosely)
  | "-regextype" => do
      readStyle c
      return nothing
  | "-type" => return leaf (← readKind .found)
  | "-xtype" => do
      let follows := (← get).manner.following = .always
      return leaf (← readKind (if follows then .own else .beyond))
  | "-size" => return leaf (← readSize)
  | "-empty" => return leaf .empty
  | "-perm" => return leaf (← readMode c)
  | "-newer" => return leaf (← readNewer c ['m', 'm'])
  | "-anewer" => return leaf (← readNewer c ['a', 'm'])
  | "-cnewer" => return leaf (← readNewer c ['c', 'm'])
  | "-mtime" => return leaf (← readAge c .changed 86400)
  | "-atime" => return leaf (← readAge c .read 86400)
  | "-ctime" => return leaf (← readAge c .altered 86400)
  | "-mmin" => return leaf (← readAge c .changed 60)
  | "-amin" => return leaf (← readAge c .read 60)
  | "-cmin" => return leaf (← readAge c .altered 60)
  | "-links" => return leaf (.links (← amount))
  | "-inum" => return leaf (.number (← amount))
  | "-samefile" => do
      let a ← argument
      match c.before.lookup c.directory (pathOf a) ((← get).manner.following = .always) with
      | .ok (loc, _) =>
          return leaf (.number ⟨.exactly, ((c.before.stamp? loc).map Stamp.number).getD 0⟩)
      | .error e => throw (quoted c a ++ ": ".toList ++ errorText e)
  | "-user" => return leaf (← readOwner c "a known user" false)
  | "-group" => return leaf (← readOwner c "an existing group" false)
  | "-uid" | "-gid" => return leaf (← readOwner c "" true)
  | "-nouser" | "-nogroup" | "-false" => return leaf (.constant false)
  | "-true" | "-noleaf" | "-mount" | "-xdev" | "-warn" | "-nowarn" | "-ignore_readdir_race" |
      "-noignore_readdir_race" => return nothing
  | "-readable" => return leaf (.may .readable)
  | "-writable" => return leaf (.may .writable)
  | "-executable" => return leaf (.may .executable)
  | "-fstype" => pattern fun a => .constant (a = "overlay".toList)
  | "-used" => do
      let _ ← amount
      return leaf (.constant false)
  | "-daystart" => do
      modify fun r => { r with fromMidnight := true }
      return nothing
  | "-follow" => readManner fun m => { m with following := .always }
  | "-depth" | "-d" => do
      modify fun r => { r with setDepth := true }
      readManner fun m => { m with depthFirst := true }
  | "-maxdepth" => do
      let n ← level c
      readManner fun m => { m with most := some n }
  | "-mindepth" => do
      let n ← level c
      readManner fun m => { m with least := n }
  | "-print" => return doing (.print none '\n')
  | "-print0" => return doing (.print none '\x00')
  | "-fprint" => return doing (.print (some (← outputFile)) '\n')
  | "-fprint0" => return doing (.print (some (← outputFile)) '\x00')
  | "-printf" => do
      let a ← argument
      return doing (.format none (readFormat (a.length + 1) a))
  | "-fprintf" => do
      let file ← outputFile
      let a ← argument
      return doing (.format (some file) (readFormat (a.length + 1) a))
  | "-ls" => return doing (.list none)
  | "-fls" => return doing (.list (some (← outputFile)))
  | "-delete" => do
      modify fun r => { r with deletes := true }
      let _ ← readManner fun m => { m with depthFirst := true }
      return doing .delete
  | "-prune" => do
      modify fun r => { r with prunes := true }
      return doing .prune
  | "-quit" => return doing .quit
  | "-exec" => return doing (← readCommand false false)
  | "-execdir" => return doing (← readCommand true false)
  | "-ok" => return doing (← readCommand false true)
  | "-okdir" => return doing (← readCommand true true)
  | word =>
      let s := word.toList
      if "-newer".toList.isPrefixOf s && s.length = 8 then
        return leaf (← readNewer c (s.drop 6))
      else if s.head? == some '-' then throw ("unknown predicate ".toList ++ spelled s)
      else
        let last := (← get).last
        throw ("paths must precede expression: ".toList ++ spelled s ++
          (if (c.before.lookup c.directory (pathOf s) false).isOk && !last.isEmpty then
            "\nfind: possible unquoted pattern after predicate ".toList ++ spelled last ++ ['?']
          else []))

/-- Reads the tokens of the condition; fuel bounds the number of words. -/
def readTokens (c : Context) (fuel : Nat) : Reader (List Token) := do
  match fuel with
  | 0 => return []
  | fuel + 1 =>
    let r ← get
    match r.args with
    | [] => return []
    | a :: rest => do
        let isWord := (a.head? == some '-' && a.length > 1) || a = ['('] || a = [')'] ||
          a = ['!'] || a = [',']
        set { r with args := rest, last := if isWord then a else r.last }
        let token ← tokenOf c (String.ofList a)
        return token :: (← readTokens c fuel)

/-! ## Joining -/

/-- How tightly the marks bind. -/
inductive Level where
  | comma
  | disjunction
  | conjunction
  deriving DecidableEq, Repr

mutual

/-- Reads operands with marks of a level and tighter ones between them.  Fuel bounds the number of
tokens. -/
def joinLevel (fuel : Nat) (level : Level) : StateT (List Token) (Except Octets) Condition := do
  match fuel with
  | 0 => throw "invalid expression".toList
  | fuel + 1 =>
    let first ← match level with
      | .comma => joinLevel fuel .disjunction
      | .disjunction => joinLevel fuel .conjunction
      | .conjunction => joinOperand fuel
    joinMore fuel level first

def joinMore (fuel : Nat) (level : Level) (left : Condition) :
    StateT (List Token) (Except Octets) Condition := do
  match fuel with
  | 0 => throw "invalid expression".toList
  | fuel + 1 =>
    match level, ← get with
    | .comma, .comma :: rest => do
        set rest
        joinMore fuel level (.second left (← joinLevel fuel .disjunction))
    | .disjunction, .disjunction :: rest => do
        set rest
        joinMore fuel level (.either left (← joinLevel fuel .conjunction))
    | .conjunction, .conjunction :: rest => do
        set rest
        joinMore fuel level (.both left (← joinOperand fuel))
    | .conjunction, .leaf _ :: _ | .conjunction, .opening :: _ | .conjunction, .negation :: _ => do
        joinMore fuel level (.both left (← joinOperand fuel))
    | _, _ => return left

def joinOperand (fuel : Nat) : StateT (List Token) (Except Octets) Condition := do
  match fuel with
  | 0 => throw "invalid expression".toList
  | fuel + 1 =>
    match ← get with
    | .leaf c :: rest => do
        set rest
        return c
    | .negation :: rest => do
        if rest.isEmpty then throw "expected an expression after '!'".toList
        set rest
        return .negation (← joinOperand fuel)
    | .opening :: .closing :: _ =>
        throw "invalid expression; empty parentheses are not allowed.".toList
    | .opening :: rest => do
        if rest.isEmpty then
          throw ("invalid expression; expected to find a ')' but didn't see one. " ++
            "Perhaps you need an extra predicate after '('").toList
        set rest
        let inner ← joinLevel fuel .comma
        match ← get with
        | .closing :: rest => do
            set rest
            return inner
        | _ => throw ("invalid expression; I was expecting to find a ')' somewhere but did " ++
            "not see one.").toList
    | .closing :: _ => throw "invalid expression; you have too many ')'".toList
    | [] => throw "expected an expression".toList
    | _ :: _ =>
        throw "invalid expression; you have used a binary operator with nothing before it.".toList

end

def join (tokens : List Token) : Except Octets Condition := do
  match ← (joinLevel (5 * tokens.length + 8) .comma).run tokens with
  | (c, []) => return c
  | (_, _ :: _) => throw "invalid expression; you have too many ')'".toList

def leadingOptions (m : Manner) : List Octets → Manner × List Octets
  | ['-', 'L'] :: rest => leadingOptions { m with following := .always } rest
  | ['-', 'H'] :: rest => leadingOptions { m with following := .atStart } rest
  | ['-', 'P'] :: rest => leadingOptions { m with following := .never } rest
  | ('-' :: 'O' :: _) :: rest => leadingOptions m rest
  | ['-', '-'] :: rest => (m, rest)
  | args => (m, args)

def beginsCondition (a : Octets) : Bool :=
  (a.head? == some '-' && a.length > 1) || a = ['('] || a = ['!']

def Request.read (c : Context) : Except Octets Request := do
  let (manner, args) := leadingOptions ⟨.never, false, 0, none⟩ c.args
  let paths := args.takeWhile fun a => !beginsCondition a
  let start : Reading :=
    ⟨args.drop paths.length, manner, .mixed, false, 0, [], [], false, false, false⟩
  let (tokens, r) ← (readTokens c (args.length + 1)).run start
  let condition ← if tokens.isEmpty then pure (.test (.constant true)) else join tokens
  if r.deletes && r.prunes && !r.setDepth then
    throw ("The -delete action automatically turns on -depth, but -prune does nothing when " ++
      "-depth is in effect.  If you want to carry on anyway, just explicitly use the -depth " ++
      "option.").toList
  let condition := if condition.reports then condition
    else .both condition (.act (.print none '\n'))
  return ⟨r.manner, if paths.isEmpty then [['.']] else paths, condition, r.outputs⟩

end Seek

end Utility

end Conformance
