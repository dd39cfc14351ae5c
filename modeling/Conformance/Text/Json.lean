/-!
# JSON documents

The values that reports are made of and their layout: each member and element on a line of its own,
indented by two spaces for each level, and nothing between the brackets of an empty list.
-/

namespace Conformance

namespace Text

inductive Json where
  | number (n : Nat)
  | string (s : String)
  | array (elements : List Json)
  | object (members : List (String × Json))

namespace Json

def hexDigit (n : Nat) : Char :=
  if n < 10 then Char.ofNat ('0'.toNat + n) else Char.ofNat ('a'.toNat + (n - 10))

/-- A character inside a string: quotes, backslashes and controls below U+0020 are escaped. -/
def escapeChar (c : Char) : List Char :=
  match c with
  | '"' => ['\\', '"']
  | '\\' => ['\\', '\\']
  | '\n' => ['\\', 'n']
  | '\r' => ['\\', 'r']
  | '\t' => ['\\', 't']
  | '\x08' => ['\\', 'b']
  | '\x0c' => ['\\', 'f']
  | c =>
      if c.toNat < 0x20 then
        ['\\', 'u', '0', '0', hexDigit (c.toNat / 16), hexDigit (c.toNat % 16)]
      else [c]

def quote (s : String) : List Char :=
  '"' :: s.toList.flatMap escapeChar ++ ['"']

/-- A line feed and the indentation of a level. -/
def newline (level : Nat) : List Char :=
  '\n' :: List.replicate (2 * level) ' '

mutual

/-- The document for a value that stands at the given level. -/
def layout (level : Nat) : Json → List Char
  | number n => (toString n).toList
  | string s => quote s
  | array [] => ['[', ']']
  | array (e :: rest) =>
      '[' :: newline (level + 1) ++ layout (level + 1) e ++ layoutElements (level + 1) rest
        ++ newline level ++ [']']
  | object [] => ['{', '}']
  | object ((key, v) :: rest) =>
      '{' :: newline (level + 1) ++ quote key ++ [':', ' '] ++ layout (level + 1) v
        ++ layoutMembers (level + 1) rest ++ newline level ++ ['}']

def layoutElements (level : Nat) : List Json → List Char
  | [] => []
  | e :: rest => ',' :: newline level ++ layout level e ++ layoutElements level rest

def layoutMembers (level : Nat) : List (String × Json) → List Char
  | [] => []
  | (key, v) :: rest =>
      ',' :: newline level ++ quote key ++ [':', ' '] ++ layout level v ++ layoutMembers level rest

end

def pretty (v : Json) : String :=
  String.ofList (layout 0 v)

end Json

end Text

end Conformance
