import Conformance.Computer.Shell.Program
import Conformance.Text.Blank

/-!
# The text of a shell program

A script is read from the front.  The state of a reader is the text that is left, the number of the
line it begins on, and what decides how it is read: the dialect and the aliases.
-/

namespace Conformance

namespace Shell

/-- What comes next in a script, where it cannot be read. -/
inductive Token where
  | endOfText
  | newline
  | sign (s : Octets)
  | redirection (s : Octets)
  | word (s : Octets)
  deriving DecidableEq, Repr

/-- Why a script cannot be read. -/
inductive SyntaxError where
  | unclosed (mark : String)
  /-- A token cannot stand where it does.  Where only one could, it is named. -/
  | unexpected (token : Token) (expected : Option String)
  | badName (name : Octets)
  | badVariable (name : Octets)
  | tooDeep
  deriving DecidableEq, Repr

/-- An error, and where it shows. -/
structure Rejection where
  error : SyntaxError
  line : Nat
  left : Nat
  opened : Option Nat
  deriving DecidableEq, Repr

/-- What is left of a script, and how it is read. -/
structure Scan where
  text : Octets
  line : Nat
  /-- The lines of documents that were taken out behind the line being read. -/
  skipped : Nat
  dialect : Dialect
  alternatives : Bool
  aliases : List (Octets × Octets)
  /-- The aliases whose text is being read, with the length of what follows the text. -/
  active : List (Octets × Nat)
  aliasNext : Bool
  verbatim : Bool
  wide : Bool
  deriving Repr

abbrev Reader := StateT Scan (Except Rejection)

namespace Reader

def rest : Reader Octets := do return (← get).text

def peek? : Reader (Option Char) := do return (← get).text.head?

def isExtended : Reader Bool := do return (← get).dialect == .extended

def advance (n : Nat) : Reader Unit := modify fun s =>
  let lines := (s.text.take n).count '\n'
  { s with
    text := s.text.drop n
    line := s.line + lines + (if lines = 0 then 0 else s.skipped)
    skipped := if lines = 0 then s.skipped else 0 }

def jump (remainder : Octets) : Reader Unit := do
  advance ((← rest).length - remainder.length)

def fail {α : Type} (error : SyntaxError) : Reader α := do
  let s ← get
  throw ⟨error, s.line, s.text.count '\n', none⟩

def opening {α : Type} (r : Reader α) : Reader α := fun s =>
  match r.run s with
  | .error e => .error { e with opened := e.opened <|> some s.line }
  | .ok result => .ok result

def writing {α : Type} (r : Reader α) : Reader (Octets × α) := do
  let before := (← get).text
  let a ← r
  let after := (← get).text
  return (before.take (before.length - after.length), a)

def bound : Reader Nat := do return 2 * (← get).text.length + 4

end Reader

/-! ## Characters and names -/

/-- The commands whose errors end a shell of the plain dialect.  They cannot be functions there. -/
def specialNames : List String :=
  [".", ":", "break", "continue", "eval", "exec", "exit", "export", "local", "readonly", "return",
    "set", "shift", "times", "trap", "unset"]

def isNameStart (c : Char) : Bool := c.isAlpha || c == '_'

def isNameChar (c : Char) : Bool := isNameStart c || c.isDigit

def isBlankChar (c : Char) : Bool := c == ' ' || c == '\t'

def isMeta (c : Char) : Bool :=
  c == ' ' || c == '\t' || c == '\n' || c == ';' || c == '&' || c == '|' || c == '<' ||
    c == '>' || c == '(' || c == ')'

def isName (s : Octets) : Bool :=
  match s with
  | [] => false
  | c :: rest => isNameStart c && rest.all isNameChar

def isSpecialParameter (c : Char) : Bool :=
  c == '@' || c == '*' || c == '#' || c == '?' || c == '-' || c == '$' || c == '!' || c.isDigit

def parameterName (s : Octets) : Octets :=
  match s with
  | [] => []
  | c :: _ =>
      if isNameStart c then s.takeWhile isNameChar
      else if c.isDigit then s.takeWhile Char.isDigit
      else if isSpecialParameter c then [c]
      else []

def reservedWords (extended : Bool) : List String :=
  ["if", "then", "elif", "else", "fi", "while", "until", "do", "done", "for", "case", "esac",
    "\x7b", "\x7d", "!", "in"] ++ (if extended then ["[[", "function", "time", "select", "coproc"] else [])

/-- The characters of the word at the front of a text, if it holds no quotes or expansions. -/
def plainWord (s : Octets) : Octets := s.takeWhile fun c => !isMeta c

/-! ## Complaints -/

def signs : List String := ["&&", "||", ";;", ";", "&", "|", "(", ")"]

def redirectionSigns : List String := ["<<-", "<<", "<&", "<>", "<", ">>", ">&", ">|", ">"]

def tokenAt (s : Octets) : Token :=
  let found (names : List String) : Option Octets :=
    (names.find? fun name => name.toList.isPrefixOf s).map String.toList
  match s with
  | [] => .endOfText
  | '\n' :: _ => .newline
  | s =>
      match found signs, found redirectionSigns with
      | some sign, _ => .sign sign
      | none, some sign => .redirection sign
      | none, none => .word (plainWord s)

namespace Token

def plainText : Token → Octets
  | endOfText => "end of file".toList
  | newline => "newline".toList
  | redirection _ => "redirection".toList
  | sign s => '"' :: s ++ ['"']
  | word s =>
      if (reservedWords false).any (·.toList = s) then '"' :: s ++ ['"'] else "word".toList

def extendedText : Token → Octets
  | endOfText => "end of file".toList
  | newline => "newline".toList
  | redirection s | sign s | word s => s

end Token

namespace Rejection

def plainMessage (e : Rejection) : Octets × Nat :=
  let said (s : String) : Octets := "Syntax error: ".toList ++ s.toList
  match e.error with
  | .unclosed mark =>
      (match mark with
        | "\"" | "'" => said "Unterminated quoted string"
        | "`" => said "EOF in backquote substitution"
        | ")" => said "end of file unexpected (expecting \")\")"
        | mark => said "Missing '" ++ mark.toList ++ ['\''], e.line + e.left)
  | .unexpected token expected? =>
      let expected : Octets := match expected? with
        | some s => " (expecting \"".toList ++ s.toList ++ "\")".toList
        | none => []
      (said "" ++ token.plainText ++ " unexpected".toList ++ expected,
        if token = .newline then e.line + 1 else e.line)
  | .badName _ => (said "Bad function name", e.line)
  | .badVariable _ => (said "Bad for loop variable", e.line)
  | .tooDeep => (said "word unexpected", e.line)

/-- What the extended dialect says, about which line, and whether it shows the line. -/
def extendedMessage (endsLine : Bool) (e : Rejection) : Octets × Nat × Bool :=
  let more : Nat := if endsLine then 0 else 1
  match e.error with
  | .unclosed mark =>
      ("unexpected EOF while looking for matching `".toList ++ mark.toList ++ ['\''],
        if mark = ")" then e.line + e.left + more else e.opened.getD e.line, false)
  | .unexpected .endOfText _ => ("syntax error: unexpected end of file".toList, e.line + more, false)
  | .unexpected token _ =>
      ("syntax error near unexpected token `".toList ++ token.extendedText ++ ['\''], e.line, true)
  | .badName name | .badVariable name =>
      ('`' :: name ++ "': not a valid identifier".toList, e.line, false)
  | .tooDeep => ("syntax error".toList, e.line, false)

def wantsMore (e : Rejection) : Bool :=
  match e.error with
  | .unclosed _ | .unexpected .endOfText _ => true
  | _ => false

end Rejection

/-! ## Nested text -/

/-- The text up to the parenthesis that closes one already open, for a text in which quotes hide
parentheses; also what follows that parenthesis. -/
def upToParenthesis (depth : Nat) (taken : Octets) : Octets → Option (Octets × Octets)
  | [] => none
  | '\\' :: c :: rest => upToParenthesis depth (c :: '\\' :: taken) rest
  | '\'' :: rest =>
      let body := rest.takeWhile (· != '\'')
      match h : rest.dropWhile (· != '\'') with
      | [] => none
      | _ :: after =>
          have : after.length < rest.length + 1 := by
            have := (List.dropWhile_suffix (l := rest) (· != '\'')).length_le
            simp only [h, List.length_cons] at this
            omega
          upToParenthesis depth ('\'' :: body.reverse ++ '\'' :: taken) after
  | '"' :: rest => inQuotes depth ('"' :: taken) rest
  | '(' :: rest => upToParenthesis (depth + 1) ('(' :: taken) rest
  | ')' :: rest =>
      match depth with
      | 0 => some (taken.reverse, rest)
      | depth + 1 => upToParenthesis depth (')' :: taken) rest
  | c :: rest => upToParenthesis depth (c :: taken) rest
termination_by s => s.length
where
  inQuotes (depth : Nat) (taken : Octets) : Octets → Option (Octets × Octets)
    | [] => none
    | '\\' :: c :: rest => inQuotes depth (c :: '\\' :: taken) rest
    | '"' :: rest => upToParenthesis depth ('"' :: taken) rest
    | c :: rest => inQuotes depth (c :: taken) rest
  termination_by s => s.length

/-- The expression between double parentheses, from behind them on, and what follows it.  Where a
lone parenthesis may stand in it, one that closes nothing does not end the expression. -/
def upToDoubleParenthesis? (mayStray : Bool) (s : Octets) : Option (Octets × Octets) :=
  go s.length s
where
  go (fuel : Nat) (s : Octets) : Option (Octets × Octets) :=
    match upToParenthesis 0 [] s, fuel with
    | some (inner, ')' :: rest), _ => some (inner, rest)
    | some (inner, rest), fuel + 1 =>
        if mayStray then (go fuel rest).map fun (more, rest) => (inner ++ ')' :: more, rest) else none
    | _, _ => none

/-- The script between backquotes.  A backslash protects a backquote, a dollar and itself, and
inside double quotes a double quote as well. -/
def upToBackquote (quoted : Bool) (taken : Octets) : Octets → Option (Octets × Octets)
  | [] => none
  | '`' :: rest => some (taken.reverse, rest)
  | '\\' :: c :: rest =>
      if c == '`' || c == '$' || c == '\\' || (quoted && c == '"') then
        upToBackquote quoted (c :: taken) rest
      else upToBackquote quoted (c :: '\\' :: taken) rest
  | c :: rest => upToBackquote quoted (c :: taken) rest

/-! ## Blanks -/

def skipBlanks : Octets → Octets
  | [] => []
  | '\\' :: '\n' :: rest => skipBlanks rest
  | '#' :: rest => rest.dropWhile (· != '\n')
  | c :: rest => if isBlankChar c then skipBlanks rest else c :: rest

def Reader.blanks : Reader Unit := do Reader.jump (skipBlanks (← Reader.rest))

def Reader.newlines (fuel : Nat) : Reader Unit := do
  match fuel with
  | 0 => return
  | fuel + 1 =>
    Reader.blanks
    match ← Reader.peek? with
    | some '\n' => do
        Reader.advance 1
        Reader.newlines fuel
    | _ => return

def Reader.reject {α : Type} (expected : Option String) : Reader α := do
  Reader.blanks
  Reader.fail (.unexpected (tokenAt (← Reader.rest)) expected)

/-! ## Aliases -/

def Reader.alias? : Reader Bool := do
  let s ← get
  let here := plainWord s.text
  let isActive := s.active.any fun (name, size) => name = here && s.text.length > size
  match s.aliases.lookup here, isActive with
  | some value, false => do
      let after := s.text.drop here.length
      set { s with
        text := value ++ after
        active := (here, after.length) :: s.active
        aliasNext := value.getLast?.any isBlankChar }
      return true
  | _, _ => return false

def Reader.aliases (fuel : Nat) : Reader Unit := do
  match fuel with
  | 0 => return
  | fuel + 1 =>
    if (← get).aliases.isEmpty then return
    else if ← Reader.alias? then do
      Reader.blanks
      Reader.aliases fuel
    else return

end Shell

end Conformance
