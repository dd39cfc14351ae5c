import Conformance.Computer.Text.Regex
import Conformance.Computer.Utility.Basic

/-!
# Editing scripts

What the commands of a script for `sed` are, and how they are read.  Commands stand in one list;
blocks and branches are jumps to places in it.
-/

namespace Conformance

namespace Utility

namespace Edit

/-- What a pattern space is searched for; without an expression, for what was looked for last. -/
structure Target where
  regex? : Option Regex
  rules : Regex.Rules

inductive Address where
  | line (n : Nat)
  | every (first step : Nat)
  | final
  | matching (t : Target)

inductive RangeEnd where
  | at (a : Address)
  | further (n : Nat)
  | multiple (n : Nat)

inductive Selection where
  | all
  | one (a : Address)
  | range (first : Address) (last : RangeEnd)

/-- What is done to the letters of a replacement. -/
inductive Recasing where
  | upper
  | lower
  | upperOne
  | lowerOne
  | none
  deriving DecidableEq, Repr

/-- A piece of the text that takes the place of a match. -/
inductive Piece where
  | text (s : Octets)
  | group (n : Nat)
  | recase (r : Recasing)
  deriving DecidableEq, Repr

structure Substitution where
  target : Target
  pieces : List Piece
  first : Nat
  everywhere : Bool
  prints : Bool
  runs : Bool
  printsCommand : Bool
  file? : Option Octets

inductive Condition where
  | always
  | replaced
  | notReplaced
  deriving DecidableEq, Repr

inductive Action where
  | substitute (s : Substitution)
  | exchange (pairs : List (Char × Char))
  | append (s : Octets)
  | insert (s : Octets)
  | change (s : Octets)
  | delete
  | deleteLine
  | print
  | printLine
  | show (width : Option Nat)
  | number
  | fileName
  | next
  | appendNext
  | hold (appends : Bool)
  | get (appends : Bool)
  | swap
  | clear
  | run (command : Option Octets)
  | readFile (file : Octets)
  | readLine (file : Octets)
  | writeFile (file : Octets)
  | writeLine (file : Octets)
  | quit (prints : Bool) (status : Nat)
  | branch (when : Condition) (label : Octets)
  | label (name : Octets)
  | opening
  | closing
  | nothing

structure Command where
  selection : Selection
  negated : Bool
  action : Action

/-- What is wrong with a script, and how much of it was still to be read when that was found. -/
structure Fault where
  message : String
  left : Nat
  deriving Repr

abbrev Reader := StateT Octets (Except Fault)

def fail {α : Type} (message : String) : Reader α := do
  throw ⟨message, (← get).length⟩

structure Reading where
  dialect : Regex.Dialect
  wide : Bool

namespace Reading

def characters (o : Reading) (s : Octets) : List Char := if o.wide then Octets.toWide s else s

end Reading

def isBlank (c : Char) : Bool := c == ' ' || c == '\t'

def skipBlanks : Reader Unit := modify (List.dropWhile isBlank)

def numberOf (base most : Nat) (s : Octets) : Option (Nat × Octets) :=
  let value (c : Char) : Option Nat :=
    let n := if c.isDigit then some (c.toNat - '0'.toNat)
      else if 'a' ≤ c.toLower ∧ c.toLower ≤ 'f' then some (c.toLower.toNat - 'a'.toNat + 10)
      else none
    n.filter (· < base)
  let digits := (s.take most).takeWhile fun c => (value c).isSome
  if digits.isEmpty then none
  else some (digits.foldl (fun n c => n * base + (value c).getD 0) 0, s.drop digits.length)

/-- The character that a letter behind a backslash stands for, with what follows it. -/
def escape? : Octets → Option (Char × Octets)
  | 'a' :: rest => some ('\x07', rest)
  | 'f' :: rest => some ('\x0c', rest)
  | 'r' :: rest => some ('\r', rest)
  | 't' :: rest => some ('\t', rest)
  | 'v' :: rest => some ('\x0b', rest)
  | 'c' :: c :: rest => some (Char.ofNat (c.toUpper.toNat ^^^ 64), rest)
  | 'd' :: rest => (numberOf 10 3 rest).map fun (n, rest) => (Char.ofNat (n % 256), rest)
  | 'o' :: rest => (numberOf 8 3 rest).map fun (n, rest) => (Char.ofNat (n % 256), rest)
  | 'x' :: rest => (numberOf 16 2 rest).map fun (n, rest) => (Char.ofNat (n % 256), rest)
  | _ => none

/-- Text with characters in the place of their escapes; other backslashes stay. -/
def unescaped (fuel : Nat) (s : Octets) : Octets :=
  match fuel, s with
  | 0, _ | _, [] => []
  | fuel + 1, '\\' :: rest =>
      match escape? rest, rest with
      | some (c, rest), _ => c :: unescaped fuel rest
      | none, c :: rest => '\\' :: c :: unescaped fuel rest
      | none, [] => ['\\']
  | fuel + 1, c :: rest => c :: unescaped fuel rest

def bracketed (fuel : Nat) (taken : Octets) (s : Octets) : Option (Octets × Octets) :=
  match fuel, s with
  | 0, _ | _, [] => none
  | fuel + 1, '[' :: c :: rest =>
      if c == ':' || c == '.' || c == '=' then
        let inner := rest.takeWhile (· != c)
        match rest.drop inner.length with
        | _ :: ']' :: after => bracketed fuel (']' :: c :: inner.reverse ++ c :: '[' :: taken) after
        | _ => bracketed fuel ('[' :: taken) (c :: rest)
      else bracketed fuel ('[' :: taken) (c :: rest)
  | _ + 1, ']' :: rest => some ((']' :: taken).reverse, rest)
  | fuel + 1, '\\' :: 'n' :: rest => bracketed fuel ('\n' :: taken) rest
  | fuel + 1, c :: rest => bracketed fuel (c :: taken) rest

/-- Text up to a delimiter, which a backslash protects.  In a pattern a delimiter inside brackets
does not count, and a line end can be written as a letter behind a backslash. -/
def upTo (delimiter : Char) (isPattern : Bool) (fuel : Nat) (taken : Octets) :
    Octets → Option (Octets × Octets)
  | [] | '\n' :: _ => none
  | s@(c :: rest) =>
    match fuel with
    | 0 => none
    | fuel + 1 =>
      if c == delimiter then some (taken.reverse, rest)
      else if c == '\\' then
        match rest with
        | [] => none
        | d :: rest =>
            if d == 'n' && isPattern && delimiter != 'n' then
              upTo delimiter isPattern fuel ('\n' :: taken) rest
            else if d == '\n' then
              upTo delimiter isPattern fuel ('\n' :: (if isPattern then taken else '\\' :: taken))
                rest
            else if d == delimiter && (isPattern || d != '&') then
              upTo delimiter isPattern fuel (d :: taken) rest
            else upTo delimiter isPattern fuel (d :: '\\' :: taken) rest
      else if c == '[' && isPattern then
        let (opening, inner) := match rest with
          | '^' :: ']' :: inner => (['[', '^', ']'], inner)
          | '^' :: inner => (['[', '^'], inner)
          | ']' :: inner => (['[', ']'], inner)
          | inner => (['['], inner)
        match bracketed (s.length + 1) [] inner with
        | some (set, rest) =>
            upTo delimiter isPattern fuel (set.reverse ++ opening.reverse ++ taken) rest
        | none => none
      else upTo delimiter isPattern fuel (c :: taken) rest

/-- Reads text up to a delimiter; where there is none the whole is unfinished. -/
def readDelimited (delimiter : Char) (isPattern : Bool) (unfinished : String) :
    Reader Octets := do
  let s ← get
  match upTo delimiter isPattern (s.length + 1) [] s with
  | some (text, rest) => do
      set rest
      return text
  | none => do
      set ([] : Octets)
      fail unfinished

/-- The complaint about a set that was meant to be the name of a class. -/
def bareClass : String := "character class syntax is [[:space:]], not [:space:]"

def readTarget (o : Reading) (pattern : Octets) (rules : Regex.Rules) : Reader Target := do
  if pattern.isEmpty then return ⟨none, rules⟩
  let s := o.characters (unescaped pattern.length pattern)
  if Regex.hasBareClass s then fail bareClass
  match Regex.parseStrictly o.dialect s with
  | .ok r => return ⟨some r, rules⟩
  | .error message => fail message

def readNumber? : Reader (Option Nat) := do
  let digits := (← get).takeWhile Char.isDigit
  modify (List.drop digits.length)
  return readNat? digits

def readRules (fuel : Nat) (wide : Bool) (rules : Regex.Rules) : Reader Regex.Rules := do
  match fuel with
  | 0 => return rules
  | fuel + 1 =>
    let s ← get
    match s.dropWhile isBlank with
    | 'I' :: rest => do
        set rest
        readRules fuel wide { rules with casing := .of true wide }
    | 'M' :: rest => do
        set rest
        readRules fuel wide { rules with manyLines := true }
    | _ => return rules

def readPatternAddress (o : Reading) (delimiter : Char) : Reader Address := do
  let pattern ← readDelimited delimiter true "unterminated address regex"
  let rules ← readRules (← get).length o.wide .standard
  return .matching (← readTarget o pattern rules)

def readAddress? (o : Reading) : Reader (Option Address) := do
  match ← get with
  | '$' :: rest => do
      set rest
      return some .final
  | '/' :: rest => do
      set rest
      return some (← readPatternAddress o '/')
  | '\\' :: c :: rest => do
      set rest
      return some (← readPatternAddress o c)
  | _ => do
      match ← readNumber? with
      | none => return none
      | some n => do
          match (← get).dropWhile isBlank with
          | '~' :: rest => do
              set (rest.dropWhile isBlank)
              match (← readNumber?).getD 0 with
              | 0 => return some (.line n)
              | step => return some (.every n step)
          | _ => return some (.line n)

def readRangeEnd (o : Reading) : Reader RangeEnd := do
  match ← get with
  | '+' :: rest => do
      set (rest.dropWhile isBlank)
      return .further ((← readNumber?).getD 0)
  | '~' :: rest => do
      set (rest.dropWhile isBlank)
      return .multiple ((← readNumber?).getD 0)
  | _ => do
      match ← readAddress? o with
      | some a => return .at a
      | none => fail "unexpected `,'"

def readSelection (o : Reading) : Reader Selection := do
  match ← get with
  | '+' :: rest | '~' :: rest => do
      set rest
      let _ ← readNumber?
      fail "invalid usage of +N or ~N as first address"
  | _ => do
    match ← readAddress? o with
    | none => return .all
    | some first => do
      skipBlanks
      match ← get with
      | ',' :: rest => do
          set (rest.dropWhile isBlank)
          let last ← readRangeEnd o
          match first, last with
          | .line 0, .at (.matching _) => return .range first last
          | .line 0, _ => fail "invalid usage of line address 0"
          | _, _ => return .range first last
      | _ =>
          match first with
          | .line 0 => do
              modify (List.drop 1)
              fail "invalid usage of line address 0"
          | _ => return .one first

def withChar (c : Char) : List Piece → List Piece
  | .text s :: rest => .text (c :: s) :: rest
  | pieces => .text [c] :: pieces

def piecesOf (fuel : Nat) (s : Octets) : List Piece :=
  match fuel, s with
  | 0, _ | _, [] => []
  | fuel + 1, '&' :: rest => .group 0 :: piecesOf fuel rest
  | fuel + 1, '\\' :: rest =>
      match escape? rest, rest with
      | some (c, rest), _ => withChar c (piecesOf fuel rest)
      | none, [] => [.text ['\\']]
      | none, c :: rest =>
          if c.isDigit then .group (c.toNat - '0'.toNat) :: piecesOf fuel rest
          else match c with
            | 'n' => withChar '\n' (piecesOf fuel rest)
            | 'L' => .recase .lower :: piecesOf fuel rest
            | 'U' => .recase .upper :: piecesOf fuel rest
            | 'l' => .recase .lowerOne :: piecesOf fuel rest
            | 'u' => .recase .upperOne :: piecesOf fuel rest
            | 'E' => .recase .none :: piecesOf fuel rest
            | c => withChar c (piecesOf fuel rest)
  | fuel + 1, c :: rest => withChar c (piecesOf fuel rest)

/-- Text behind a command up to the end of its line; a backslash keeps the line going. -/
def textOf (fuel : Nat) (s : Octets) : Octets × Octets :=
  match fuel, s with
  | 0, s => ([], s)
  | _, [] => ([], [])
  | _ + 1, '\n' :: rest => (['\n'], rest)
  | fuel + 1, '\\' :: rest =>
      match escape? rest, rest with
      | some (c, rest), _ =>
          let (text, rest) := textOf fuel rest
          (c :: text, rest)
      | none, c :: rest =>
          let (text, rest) := textOf fuel rest
          ((if c == 'n' then '\n' else c) :: text, rest)
      | none, [] => ([], [])
  | fuel + 1, c :: rest =>
      let (text, rest) := textOf fuel rest
      (c :: text, rest)

/-- Reads the text of a command that puts lines.  It starts behind the blanks or, to keep them,
behind a backslash or on the next line. -/
def readText : Reader Octets := do
  skipBlanks
  match ← get with
  | [] | '\n' :: _ => fail "expected \\ after `a', `c' or `i'"
  | ['\\'] => do
      set ([] : Octets)
      return []
  | s => do
      let s := match s with
        | '\\' :: rest =>
            match rest.dropWhile isBlank with
            | '\n' :: below => below
            | _ => rest
        | s => s
      let (text, rest) := textOf (s.length + 1) s
      set rest
      return if text.getLast? == some '\n' then text else text ++ ['\n']

def readFileName : Reader Octets := do
  skipBlanks
  let name := (← get).takeWhile (· != '\n')
  if name.isEmpty then fail "missing filename in r/R/w/W commands"
  modify (List.drop name.length)
  return name

def readLabel : Reader Octets := do
  skipBlanks
  let name := (← get).takeWhile fun c => !isSpace c && c != ';' && c != '}'
  modify (List.drop name.length)
  return name

/-- What stands behind the replacement of a substitution. -/
structure Flags where
  rules : Regex.Rules
  first? : Option Nat
  everywhere : Bool
  prints : Bool
  runs : Bool
  printsCommand : Bool
  file? : Option Octets

def readFlags (fuel : Nat) (wide : Bool) (f : Flags) : Reader Flags := do
  match fuel with
  | 0 => return f
  | fuel + 1 =>
    match ← get with
    | [] | '\n' :: _ | ';' :: _ | '}' :: _ | '#' :: _ => return f
    | c :: rest => do
      set rest
      if isBlank c then readFlags fuel wide f
      else if c.isDigit then
        if f.first?.isSome then fail "multiple number options to `s' command"
        let digits := (c :: rest).takeWhile Char.isDigit
        set ((c :: rest).drop digits.length)
        match (readNat? digits).getD 0 with
        | 0 => fail "number option to `s' command may not be zero"
        | n => readFlags fuel wide { f with first? := some n }
      else match c with
        | 'i' | 'I' => readFlags fuel wide { f with
            rules := { f.rules with casing := .of true wide } }
        | 'm' | 'M' => readFlags fuel wide { f with rules := { f.rules with manyLines := true } }
        | 'p' =>
            if f.prints then fail "multiple `p' options to `s' command"
            readFlags fuel wide { f with prints := true, printsCommand := !f.runs }
        | 'e' => readFlags fuel wide { f with runs := true }
        | 'g' =>
            if f.everywhere then fail "multiple `g' options to `s' command"
            readFlags fuel wide { f with everywhere := true }
        | 'w' => return { f with file? := some (← readFileName) }
        | '\r' => readFlags fuel wide f
        | _ => fail "unknown option to `s'"

def readSubstitution (o : Reading) : Reader Substitution := do
  let unfinished := "unterminated `s' command"
  match ← get with
  | [] | '\n' :: _ | '\\' :: _ => fail unfinished
  | delimiter :: rest => do
      set rest
      let pattern ← readDelimited delimiter true unfinished
      let replacement ← readDelimited delimiter false unfinished
      let f ← readFlags (← get).length o.wide ⟨.standard, none, false, false, false, false, none⟩
      let target ← readTarget o pattern f.rules
      let pieces := piecesOf replacement.length replacement
      let groups := pieces.filterMap fun
        | .group n => some n
        | _ => none
      let count := (target.regex?.map Regex.groupCount).getD 9
      match groups.find? (· > count) with
      | some n => fail ("invalid reference \\" ++ toString n ++ " on `s' command's RHS")
      | none =>
          return {
            target
            pieces
            first := f.first?.getD 1
            everywhere := f.everywhere
            prints := f.prints
            runs := f.runs
            printsCommand := f.printsCommand
            file? := f.file? }

def exchanged : List Char → List Char
  | '\\' :: 'n' :: rest => '\n' :: exchanged rest
  | '\\' :: c :: rest => c :: exchanged rest
  | c :: rest => c :: exchanged rest
  | [] => []

def readExchange (o : Reading) : Reader Action := do
  let unfinished := "unterminated `y' command"
  match ← get with
  | [] => fail unfinished
  | delimiter :: rest => do
      set rest
      let source ← readDelimited delimiter false unfinished
      let target ← readDelimited delimiter false unfinished
      let side (s : Octets) : List Char := exchanged (o.characters (unescaped s.length s))
      if (side source).length != (side target).length then
        fail "strings for `y' command are different lengths"
      return .exchange ((side source).zip (side target))

/-- Nothing but blanks and a mark may stand behind a command on its line. -/
def readEnd : Reader Unit := do
  modify (List.dropWhile fun c => isBlank c || c == '\r')
  match ← get with
  | [] | '}' :: _ | '#' :: _ => return
  | c :: rest => do
      set rest
      if c != '\n' && c != ';' then fail "extra characters after command"

def ended (a : Action) : Reader Action := do
  readEnd
  return a

def readAction (o : Reading) (selection : Selection) : Reader Action := do
  let single : Reader Unit := do
    match selection with
    | .range _ _ => fail "command only uses one address"
    | _ => return
  match ← get with
  | [] => fail "missing command"
  | c :: rest => do
      set rest
      match c with
      | 's' => ended (.substitute (← readSubstitution o))
      | 'y' => ended (← readExchange o)
      | 'd' => ended .delete
      | 'D' => ended .deleteLine
      | 'p' => ended .print
      | 'P' => ended .printLine
      | '=' => ended .number
      | 'F' => ended .fileName
      | 'n' => ended .next
      | 'N' => ended .appendNext
      | 'h' => ended (.hold false)
      | 'H' => ended (.hold true)
      | 'g' => ended (.get false)
      | 'G' => ended (.get true)
      | 'x' => ended .swap
      | 'z' => ended .clear
      | 'a' => return .append (← readText)
      | 'i' => return .insert (← readText)
      | 'c' => return .change (← readText)
      | 'e' => do
          skipBlanks
          match ← get with
          | [] | '\n' :: _ => ended (.run none)
          | _ => return .run (some (← readText))
      | 'r' => return .readFile (← readFileName)
      | 'R' => return .readLine (← readFileName)
      | 'w' => return .writeFile (← readFileName)
      | 'W' => return .writeLine (← readFileName)
      | 'l' => do
          skipBlanks
          ended (.show (← readNumber?))
      | 'q' | 'Q' => do
          single
          skipBlanks
          ended (.quit (c == 'q') ((← readNumber?).getD 0))
      | 'b' => ended (.branch .always (← readLabel))
      | 't' => ended (.branch .replaced (← readLabel))
      | 'T' => ended (.branch .notReplaced (← readLabel))
      | ':' => do
          match selection with
          | .all => pure ()
          | _ => fail ": doesn't want any addresses"
          skipBlanks
          let name := (← get).takeWhile fun c => !isSpace c && c != ';' && c != '}'
          modify (List.drop name.length)
          if name.isEmpty then fail "\":\" lacks a label"
          return .label name
      | 'v' => do
          let _ ← readLabel
          ended .nothing
      | '{' => return .opening
      | '}' => do
          match selection with
          | .all => pure ()
          | _ => fail "unexpected `\x7d'"
          ended .closing
      | '#' => fail "comments don't accept any addresses"
      | ',' => fail "unknown command: `,'"
      | c => fail ("unknown command: `" ++ String.singleton c ++ "'")

/-- Reads commands; fuel bounds their number, and the depth tells how many blocks are open. -/
def readCommands (o : Reading) (fuel depth : Nat) : Reader (List Command) := do
  match fuel with
  | 0 => return []
  | fuel + 1 =>
    modify (List.dropWhile fun c => isSpace c || c == ';')
    match ← get with
    | [] => if depth > 0 then fail "unmatched `\x7b'" else return []
    | '#' :: rest => do
        set (rest.dropWhile (· != '\n'))
        readCommands o fuel depth
    | _ => do
        let selection ← readSelection o
        skipBlanks
        let negated := (← get).head? == some '!'
        if negated then
          modify fun s => (s.drop 1).dropWhile isBlank
          if (← get).head? == some '!' then
            modify (List.drop 1)
            fail "multiple `!'s"
        let action ← readAction o selection
        let depth ← match action with
          | .opening => pure (depth + 1)
          | .closing => if depth = 0 then fail "unexpected `\x7d'" else pure (depth - 1)
          | _ => pure depth
        return ⟨selection, negated, action⟩ :: (← readCommands o fuel depth)

def parse (o : Reading) (script : Octets) : Except Fault (List Command) :=
  ((readCommands o (script.length + 2) 0).run script).map Prod.fst

/-- The place behind the end of a block that begins before a place. -/
def closingFrom (commands : List Command) (depth place : Nat) : Nat :=
  match commands with
  | [] => place
  | c :: rest =>
      match c.action with
      | .opening => closingFrom rest (depth + 1) (place + 1)
      | .closing =>
          if depth = 0 then place + 1 else closingFrom rest (depth - 1) (place + 1)
      | _ => closingFrom rest depth (place + 1)

end Edit

end Utility

end Conformance
