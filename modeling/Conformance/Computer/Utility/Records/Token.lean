import Conformance.Computer.Utility.Records.Matching
import Conformance.Computer.Utility.Records.Program
import Conformance.Computer.Utility.Records.Value

/-!
# Words of programs

The text of a program is cut into words.  Whether a slash divides or begins an expression depends on
the word before it.
-/

namespace Conformance

namespace Utility

namespace Records

inductive Token where
  | number (x : Float)
  | text (s : Octets)
  | regex (s : Octets)
  | name (s : Octets)
  | callee (s : Octets)
  | builtin (f : Builtin)
  | keyword (s : String)
  | sign (s : String)
  | newline
  | finish
  deriving BEq

/-- A word with the line on which it stands. -/
structure Lexeme where
  token : Token
  line : Nat
  spelling : Octets

/-- Why a text is no program. -/
structure Fault where
  line : Nat
  message : Octets

def keywords : List String :=
  ["BEGIN", "END", "function", "if", "else", "while", "for", "do", "break", "continue", "next",
    "nextfile", "exit", "return", "delete", "in", "getline", "print", "printf"]

def signs : List String :=
  ["&&", "||", "++", "--", "+=", "-=", "*=", "/=", "%=", "^=", "==", "<=", ">=", "!=", "!~", ">>",
    "\x7b", "\x7d", "(", ")", "[", "]", ";", ",", "+", "-", "*", "/", "%", "^", "!", ">", "<", "|",
    "?", ":", "~", "$", "="]

def Token.isOperand : Token → Bool
  | .number _ | .text _ | .regex _ | .name _ | .callee _ | .builtin _ => true
  | .sign s => s == ")" || s == "]" || s == "++" || s == "--"
  | .keyword _ | .newline | .finish => false

/-- The text up to a closing quote, the text behind it, and how many lines end inside; fuel bounds
the length. -/
def quotedText? (fuel : Nat) (s : Octets) : Option (Octets × Octets × Nat) :=
  match fuel, s with
  | 0, _ | _, [] | _, '\n' :: _ => none
  | _, '"' :: rest => some ([], rest, 0)
  | fuel + 1, '\\' :: c :: rest =>
      (quotedText? fuel rest).map fun (t, rest, n) =>
        ('\\' :: c :: t, rest, if c == '\n' then n + 1 else n)
  | fuel + 1, c :: rest => (quotedText? fuel rest).map fun (t, rest, n) => (c :: t, rest, n)

def slashedText? (fuel : Nat) (inSet : Bool) (s : Octets) : Option (Octets × Octets) :=
  match fuel, s with
  | 0, _ | _, [] | _, '\n' :: _ => none
  | fuel + 1, '/' :: rest =>
      if inSet then (slashedText? fuel true rest).map fun (t, rest) => ('/' :: t, rest)
      else some ([], rest)
  | fuel + 1, '\\' :: c :: rest =>
      (slashedText? fuel inSet rest).map fun (t, rest) =>
        (if c == '/' then '/' :: t else '\\' :: c :: t, rest)
  | fuel + 1, '[' :: '^' :: ']' :: rest =>
      (slashedText? fuel true rest).map fun (t, rest) => ('[' :: '^' :: ']' :: t, rest)
  | fuel + 1, '[' :: ']' :: rest =>
      if inSet then (slashedText? fuel false rest).map fun (t, rest) => ('[' :: ']' :: t, rest)
      else (slashedText? fuel true rest).map fun (t, rest) => ('[' :: ']' :: t, rest)
  | fuel + 1, '[' :: ':' :: rest =>
      if inSet then
        let name := rest.takeWhile Char.isAlpha
        match rest.drop name.length with
        | ':' :: ']' :: after =>
            (slashedText? fuel true after).map fun (t, rest) =>
              ('[' :: ':' :: name ++ ':' :: ']' :: t, rest)
        | _ => (slashedText? fuel true (':' :: rest)).map fun (t, rest) => ('[' :: t, rest)
      else (slashedText? fuel true (':' :: rest)).map fun (t, rest) => ('[' :: t, rest)
  | fuel + 1, c :: rest =>
      let inSet := if c == '[' then true else if c == ']' then false else inSet
      (slashedText? fuel inSet rest).map fun (t, rest) => (c :: t, rest)

def numeralLength (s : Octets) : Nat :=
  let digits (s : Octets) : Nat := (s.takeWhile Char.isDigit).length
  let whole := digits s
  let n := match s.drop whole with
    | '.' :: rest => whole + 1 + digits rest
    | _ => whole
  match s.drop n with
  | e :: rest =>
      if e == 'e' || e == 'E' then
        let signSize := match rest with
          | '+' :: _ | '-' :: _ => 1
          | _ => 0
        let power := digits (rest.drop signSize)
        if power > 0 then n + 1 + signSize + power else n
      else n
  | [] => n

def isNameStart (c : Char) : Bool := c.isAlpha || c == '_'

def isNamePart (c : Char) : Bool := c.isAlphanum || c == '_'

def wordOf (name rest : Octets) : Token :=
  let s := String.ofList name
  if keywords.contains s then .keyword s
  else match Builtin.table.lookup s with
    | some f => .builtin f
    | none => if rest.head? == some '(' then .callee name else .name name

/-- Cuts a text into words; fuel bounds its length. -/
def lexemes (fuel line : Nat) (before : Token) (s : Octets) : Except Fault (List Lexeme) := do
  match fuel, s with
  | 0, _ | _, [] => return []
  | fuel + 1, c :: rest =>
      let word (t : Token) (size : Nat) : Except Fault (List Lexeme) := do
        return ⟨t, line, s.take size⟩ :: (← lexemes fuel line t (s.drop size))
      if c == '\n' then
        return ⟨.newline, line, ['\n']⟩ :: (← lexemes fuel (line + 1) .newline rest)
      else if isSpace c then lexemes fuel line before rest
      else if c == '#' then lexemes fuel line before (rest.dropWhile (· != '\n'))
      else if c == '\\' && rest.head? == some '\n' then
        lexemes fuel (line + 1) before (rest.drop 1)
      else if c == '"' then
        match quotedText? (rest.length + 1) rest with
        | none => throw ⟨line, "runaway string constant \"".toList ++
            (rest.takeWhile (· != '\n')).take 10 ++ " ...".toList⟩
        | some (t, rest, n) =>
            return ⟨.text (unescaped t), line, '"' :: t ++ ['"']⟩ ::
              (← lexemes fuel (line + n) (.text []) rest)
      else if c.isDigit || (c == '.' && rest.head?.any Char.isDigit) then
        let size := numeralLength s
        let x := ((leadingNumber? (s.take size)).map Prod.fst).getD 0.0
        word (.number x) size
      else if isNameStart c then
        let name := s.takeWhile isNamePart
        word (wordOf name (s.drop name.length)) name.length
      else if c == '/' && !before.isOperand then
        match slashedText? (rest.length + 1) false rest with
        | none => throw ⟨line, "runaway regular expression /".toList ++
            (rest.takeWhile (· != '\n')).take 10 ++ " ...".toList⟩
        | some (t, after) =>
            return ⟨.regex t, line, '/' :: t ++ ['/']⟩ :: (← lexemes fuel line (.regex t) after)
      else match signs.find? fun x => x.toList.isPrefixOf s with
        | some x => word (.sign x) x.length
        | none => throw ⟨line, "unexpected character '".toList ++ [c, '\'']⟩

end Records

end Utility

end Conformance
