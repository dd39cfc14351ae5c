import Conformance.Computer.Shell.Reader.Command

/-!
# How commands are written out

The extended dialect shows commands and functions in a layout of its own.  A command is read again
so that its words are the text they are written in, and written out from the tree that comes of it.
-/

namespace Conformance

namespace Shell

/-- What has been written so far, newest first, and how things go on. -/
structure Page where
  text : Octets
  indentation : Nat
  /-- How much further a nested command stands to the right. -/
  amount : Nat
  /-- How many commands follow on the same line. -/
  skips : Nat
  isFunction : Bool
  joining : Nat
  documents : List Octets
  wasDocument : Bool

abbrev Writer := StateM Page

namespace Page

def empty (isFunction : Bool) : Page where
  text := []
  indentation := 0
  amount := 4
  skips := 0
  isFunction
  joining := 0
  documents := []
  wasDocument := false

end Page

namespace Writer

def put (s : Octets) : Writer Unit := modify fun p => { p with text := s.reverse ++ p.text }

def say (s : String) : Writer Unit := put s.toList

def indent : Writer Unit := do put (List.replicate (← get).indentation ' ')

def line (s : String) : Writer Unit := do
  say "\n"
  indent
  say s

def deeper : Writer Unit := modify fun p => { p with indentation := p.indentation + p.amount }

def back : Writer Unit := modify fun p => { p with indentation := p.indentation - p.amount }

def skip : Writer Unit := modify fun p => { p with skips := p.skips + 1 }

/-- A semicolon, unless something else ends the command already. -/
def semicolon : Writer Unit := do
  match (← get).text.head? with
  | some '&' | some '\n' => return
  | _ => say ";"

def bodies (documents : List Octets) : Writer Unit := do
  say "\n"
  for d in documents do put (d ++ ['\n'])
  modify fun p => { p with wasDocument := true }

/-- Writes the here-documents that have been put off, behind a mark. -/
def putOff (mark : String) : Writer Unit := do
  let marks := !mark.isEmpty && mark != ";"
  if marks then say mark
  let documents := (← get).documents
  if !documents.isEmpty then do
    bodies documents
    if marks then say " "
  modify fun p => { p with documents := [] }

def rest : Writer Unit := do if !(← get).documents.isEmpty then putOff ""

def words (between : String) (l : List Word) : Writer Unit :=
  put (List.intercalate between.toList (l.map writtenWord))
where
  writtenWord (w : Word) : Octets := w.flatMap fun part =>
    match part with
    | .text s _ => s
    | _ => []

def redirection (r : Redirection) : Writer Unit := do
  let number (standard : Option Nat) : Writer Unit :=
    match r with
    | .named x _ _ => put ('{' :: x ++ ['}'])
    | .mk n _ _ => if standard == some n then return else put (Octets.ofNat n)
  let target := words.writtenWord r.target
  let plain (standard : Nat) (sign : String) : Writer Unit := do
    number (some standard)
    put (sign.toList ++ ' ' :: target)
  let copy (sign : String) : Writer Unit := do
    number none
    put (sign.toList ++ target)
  match r.kind with
  | .read => plain 0 "<"
  | .write => plain 1 ">"
  | .overwrite => plain 1 ">|"
  | .append => plain 1 ">>"
  | .readWrite => plain 1 "<>"
  | .hereWord => plain 0 "<<<"
  | .writeBoth => put ("&> ".toList ++ target)
  | .appendBoth => put ("&>> ".toList ++ target)
  | .duplicateInput => copy "<&"
  | .duplicateOutput =>
      if target.all Char.isDigit || target.getLast? == some '-' || target.head? == some '$' then
        copy ">&"
      else put ("&> ".toList ++ target)
  | .here =>
      number (some 0)
      match r.target with
      | .text strip _ :: .text delimiter quoted :: _ =>
          put ("<<".toList ++ strip ++
            (if quoted then '\'' :: delimiter ++ ['\''] else delimiter))
      | _ => return

def documentOf (r : Redirection) : Option Octets :=
  match r.kind, r.target with
  | .here, [_, .text delimiter _, .text body _] => some (body ++ delimiter)
  | _, _ => none

def redirections (l : List Redirection) : Writer Unit := do
  modify fun p => { p with wasDocument := false }
  let rec each : List Redirection → Writer Unit
    | [] => return
    | [r] => redirection r
    | r :: rest => do
        redirection r
        say " "
        each rest
  each l
  let documents := l.filterMap documentOf
  if !documents.isEmpty then do
    if (← get).joining > 0 then modify fun p => { p with documents }
    else bodies documents

def condition (fuel : Nat) (c : Condition) : Writer Unit := do
  match fuel with
  | 0 => return
  | fuel + 1 =>
    match c with
    | .filled word => do
        say "-n "
        words "" [word]
    | .unary op word => do
        put (op ++ [' '])
        words "" [word]
    | .binary op a b => do
        words "" [a]
        put (' ' :: op ++ [' '])
        words "" [b]
    | .not c => do
        say "! "
        condition fuel c
    | .grouped c => do
        say "( "
        condition fuel c
        say " )"
    | .both a b => do
        condition fuel a
        say " && "
        condition fuel b
    | .either a b => do
        condition fuel a
        say " || "
        condition fuel b

def expression (w : Word) : Octets :=
  match (words.writtenWord w).dropWhile fun c => isBlankChar c || c == '\n' with
  | [] => ['1']
  | s => s

mutual

/-- Writes a command; fuel bounds how deep it nests. -/
def command (fuel : Nat) (c : Command) : Writer Unit := do
  match fuel with
  | 0 => return
  | fuel + 1 =>
    let p ← get
    if p.skips > 0 then set { p with skips := p.skips - 1 } else indent
    match c with
    | .redirected inner l => do
        match inner, l with
        | inner, [] => group fuel inner
        | inner, l => do
            skip
            command fuel inner
            say " "
            redirections l
    | .nothing => return
    | .simple _ assignments list l => do
        let assigned := assignments.map fun a => match a with
          | .mk text .. => [Part.text text false]
        let all := assigned ++ list
        words " " all
        if !l.isEmpty then do
          if !all.isEmpty then say " "
          redirections l
    | .pipeline l => stages fuel l
    | .negation c => do
        say "! "
        skip
        command fuel c
    | .timed portable c => do
        say (if portable then "time -p " else "time ")
        skip
        command fuel c
    | .both a b => joined fuel " && " a b
    | .either a b => joined fuel " || " a b
    | .background _ a => beside fuel a none
    | .sequence (.background _ a) b => beside fuel a (some b)
    | .sequence a b => do
        skip
        modify fun p => { p with joining := p.joining + 1 }
        command fuel a
        let p ← get
        if p.documents.isEmpty then do
          if p.wasDocument then set { p with wasDocument := false } else say ";"
        else putOff (if p.isFunction then "" else ";")
        if p.isFunction then say "\n"
        else do
          say " "
          skip
        command fuel b
        rest
        modify fun p => { p with joining := p.joining - 1 }
    | .subshell c => do
        say "( "
        skip
        command fuel c
        rest
        say " )"
    | .coprocess name c => do
        put ("coproc ".toList ++ name ++ [' '])
        skip
        command fuel c
    | .conditional test yes no => do
        say "if "
        skip
        command fuel test
        semicolon
        say " then\n"
        deeper
        command fuel yes
        rest
        back
        match no with
        | .nothing => pure ()
        | no => do
            semicolon
            line "else\n"
            deeper
            command fuel no
            rest
            back
        semicolon
        line "fi"
    | .loop outcome test body => do
        say (if outcome then "while " else "until ")
        skip
        command fuel test
        rest
        semicolon
        say " do\n"
        deeper
        command fuel body
        rest
        back
        semicolon
        line "done"
    | .each name list body => loop fuel "for " name list body
    | .menu name list body => loop fuel "select " name list body
    | .counting start test step body => do
        put ("for ((".toList ++ expression start ++ "; ".toList ++ expression test ++ "; ".toList ++
          expression step ++ "))".toList)
        turns fuel body
    | .choice word arms => do
        say "case "
        words "" [word]
        say " in "
        deeper
        each fuel arms
        back
        line "esac"
    | .definition _ name body => do
        put ("function ".toList ++ name ++ " () \n".toList)
        indent
        say "\x7b \n"
        functionBody fuel (← get).amount body
    | .evaluation e => do
        say "(("
        words "" [e]
        say "))"
    | .examination test => do
        say "[[ "
        condition 1000 test
        say " ]]"

/-- The commands of a function, which stand further to the right, its closing brace and its
redirections. -/
def functionBody (fuel shift : Nat) (body : Command) : Writer Unit := do
  match fuel with
  | 0 => return
  | fuel + 1 =>
    let before ← get
    set { before with isFunction := true, indentation := before.indentation + shift }
    let l ← match body with
      | .redirected (.redirected inner []) l => do
          command fuel inner
          pure l
      | .redirected inner [] => do
          command fuel inner
          pure []
      | body => do
          command fuel body
          pure []
    rest
    modify fun p => { p with isFunction := before.isFunction, indentation := before.indentation }
    if l.isEmpty then line "\x7d"
    else do
      line "\x7d "
      redirections l

def group (fuel : Nat) (c : Command) : Writer Unit := do
  match fuel with
  | 0 => return
  | fuel + 1 =>
    let multiple := (← get).isFunction
    say "\x7b "
    if multiple then do
      say "\n"
      deeper
    else skip
    command fuel c
    rest
    if multiple then do
      say "\n"
      back
      indent
    else do
      semicolon
      say " "
    say "\x7d"

def stages (fuel : Nat) (l : List Command) : Writer Unit := do
  match fuel, l with
  | 0, _ => return
  | _, [] => return
  | fuel + 1, [c] => do
      skip
      command fuel c
  | fuel + 1, c :: more => do
      skip
      modify fun p => { p with joining := p.joining + 1 }
      command fuel c
      putOff " |"
      say " "
      stages fuel more
      rest
      modify fun p => { p with joining := p.joining - 1 }

/-- Two commands with a mark between them. -/
def joined (fuel : Nat) (mark : String) (a b : Command) : Writer Unit := do
  match fuel with
  | 0 => return
  | fuel + 1 =>
    skip
    modify fun p => { p with joining := p.joining + 1 }
    command fuel a
    putOff mark
    skip
    command fuel b
    rest
    modify fun p => { p with joining := p.joining - 1 }

def beside (fuel : Nat) (a : Command) (next : Option Command) : Writer Unit := do
  match fuel with
  | 0 => return
  | fuel + 1 =>
    skip
    modify fun p => { p with joining := p.joining + 1 }
    command fuel a
    putOff " &"
    match next with
    | some b => do
        say " "
        skip
        command fuel b
        rest
    | none => pure ()
    modify fun p => { p with joining := p.joining - 1 }

def turns (fuel : Nat) (body : Command) : Writer Unit := do
  match fuel with
  | 0 => return
  | fuel + 1 =>
    line "do\n"
    deeper
    command fuel body
    rest
    semicolon
    back
    line "done"

def loop (fuel : Nat) (kind : String) (name : Octets) (list : Option (List Word))
    (body : Command) : Writer Unit := do
  match fuel with
  | 0 => return
  | fuel + 1 =>
    put (kind.toList ++ name ++ " in ".toList)
    match list with
    | some list => words " " list
    | none => say "\"$@\""
    say ";"
    turns fuel body

def each (fuel : Nat) (arms : List Arm) : Writer Unit := do
  match fuel, arms with
  | 0, _ => return
  | _, [] => return
  | fuel + 1, (patterns, body, behind) :: more => do
      line ""
      words " | " patterns
      say ")\n"
      deeper
      command fuel body
      back
      rest
      line (match behind with
        | .leaves => ";;"
        | .runsNext => ";&"
        | .testsNext => ";;&")
      each fuel more

end

end Writer

namespace Layout

/-- How deep commands nest that are written out. -/
def depth : Nat := 2000

def scanFor (dialect : Dialect) (text : Octets) : Scan where
  text
  line := 1
  skipped := 0
  dialect
  alternatives := false
  aliases := []
  active := []
  aliasNext := false
  verbatim := false
  wide := false

/-- Reads the first command of a text so that its words are as they are written. -/
def reread? (dialect : Dialect) (text : Octets) : Option Command :=
  match nextCommand { scanFor dialect text with alternatives := true, verbatim := true } with
  | .ok (some (c, _)) => some c
  | _ => none

def function (name written : Octets) : Octets :=
  match reread? .extended written with
  | some (.definition _ _ body) =>
      let write : Writer Unit := do
        Writer.put (name ++ " () \n\x7b \n".toList)
        Writer.functionBody depth 4 body
      (write.run (Page.empty true)).2.text.reverse ++ ['\n']
  | _ => []

/-- A function without its name, as it stands in the environment of other programs. -/
def exportedFunction (written : Octets) : Octets :=
  match reread? .extended written with
  | some (.definition _ _ body) =>
      let write : Writer Unit := do
        Writer.say "() \x7b "
        Writer.functionBody depth 1 body
      (write.run { Page.empty true with amount := 0 }).2.text.reverse
  | _ => []

def oneLine (written : Octets) : Octets :=
  match reread? .extended written with
  | some c => ((Writer.command depth c).run (Page.empty false)).2.text.reverse
  | none => []

end Layout

end Shell

end Conformance
