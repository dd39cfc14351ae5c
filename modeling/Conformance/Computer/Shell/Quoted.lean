import Conformance.Computer.Shell.Variables

/-!
# Values as they are shown

Texts in quotes that a shell can read again, and declarations that give variables what they hold.
-/

namespace Conformance

namespace Shell

/-- The text in quotes that a shell can read again. -/
def quoteForReading (s : Octets) : Octets :=
  let special (c : Char) : Bool := c < ' ' || c == '\x7f'
  let escaped (c : Char) : Octets :=
    match c with
    | '\n' => "\\n".toList
    | '\t' => "\\t".toList
    | '\r' => "\\r".toList
    | '\x07' => "\\a".toList
    | '\x08' => "\\b".toList
    | '\x0b' => "\\v".toList
    | '\x0c' => "\\f".toList
    | '\x1b' => "\\E".toList
    | '\'' => "\\'".toList
    | '\\' => "\\\\".toList
    | c =>
        if special c then
          let digits := Nat.toDigits 8 c.toNat
          '\\' :: List.replicate (3 - digits.length) '0' ++ digits
        else [c]
  if s.any special then '$' :: '\'' :: s.flatMap escaped ++ ['\'']
  else '\'' :: s.flatMap (fun c => if c == '\'' then "'\\''".toList else [c]) ++ ['\'']

/-- The value as the extended dialect shows it where it needs quotes. -/
def shown (s : Octets) : Octets :=
  if !s.isEmpty && s.all (fun c => c.isAlphanum || "_-./:=,+%@^".toList.contains c) then s
  else quoteForReading s

def doubleQuoted (s : Octets) : Octets :=
  if s.any fun c => c < ' ' || c == '\x7f' then quoteForReading s
  else '"' :: s.flatMap (fun c =>
    if c == '"' || c == '\\' || c == '$' || c == '`' then ['\\', c] else [c]) ++ ['"']

def attributeLetters (entry : Variable) : Octets :=
  (match entry.value with
    | some (.indexed _) => ['a']
    | some (.keyed _) => ['A']
    | _ => []) ++
  (if entry.integer then ['i'] else []) ++
  (match entry.casing with
    | some .lower => ['l']
    | some .upper => ['u']
    | none => []) ++
  (if entry.refers then ['n'] else []) ++
  (if entry.readOnly then ['r'] else []) ++ (if entry.exported then ['x'] else [])

def shownKey (k : Octets) : Octets :=
  let special (c : Char) : Bool :=
    " \t\n'\"\\|&;()<>!\x7b\x7d*[]?^$".toList.contains c || c == '`'
  let leading := match k with
    | c :: _ => c == '~' || c == '#'
    | [] => false
  if k.any special || leading || k = ['@'] || k.any (· < ' ') then doubleQuoted k else k

/-- How the extended dialect shows a variable. -/
def declarationText (x : Octets) (entry : Variable) : Octets :=
  let letters := attributeLetters entry
  let key (k : Octets) : Octets := match entry.value with
    | some (.keyed _) => shownKey k
    | _ => k
  "declare -".toList ++ (if letters.isEmpty then ['-'] else letters) ++ ' ' :: x ++
    (match entry.value with
      | some (.text s) => '=' :: doubleQuoted s
      | some value =>
          if entry.isBlank then [] else
          let isKeyed := match value with
            | .keyed _ => true
            | _ => false
          "=(".toList ++ List.intercalate [' '] (value.entries.map fun (k, s) =>
            '[' :: key k ++ "]=".toList ++ doubleQuoted s) ++
            (if isKeyed && !value.entries.isEmpty then " )".toList else ")".toList)
      | none => []) ++ ['\n']

def assignmentText (x : Octets) (entry : Variable) (s : Option Octets) : Octets :=
  let letters := attributeLetters entry
  let value := (s.map fun s => '=' :: quoteForReading s).getD []
  if letters.isEmpty then (if s.isSome then x ++ value else [])
  else "declare -".toList ++ letters ++ ' ' :: x ++ value

def pairsText (value : Value) : Octets :=
  let isKeyed := match value with
    | .keyed _ => true
    | _ => false
  let pairs := value.entries.map fun (k, s) =>
    (if isKeyed then shownKey k else k) ++ ' ' :: doubleQuoted s
  List.intercalate [' '] pairs ++ (if isKeyed && !pairs.isEmpty then [' '] else [])

/-! ## Prompts -/

def withTilde (v : Variables) (path : Octets) : Octets :=
  match v.value? "HOME".toList with
  | some home =>
      if home.length > 1 && (path = home || (home ++ ['/']).isPrefixOf path) then
        '~' :: path.drop home.length
      else path
  | none => path

def lastPart (path : Octets) : Octets :=
  (path.reverse.takeWhile (· != '/')).reverse

def promptText (v : Variables) (s : Octets) : Octets :=
  go s.length s
where
  place : Octets := (v.value? "PWD".toList).getD []
  host : Octets := (v.value? "HOSTNAME".toList).getD "localhost".toList
  version : Octets := (v.value? "BASH_VERSION".toList).getD []
  go (fuel : Nat) (s : Octets) : Octets :=
    match fuel, s with
    | _, [] => []
    | 0, s => s
    | fuel + 1, '\\' :: c :: rest =>
        let numbers := version.takeWhile fun c => c.isDigit || c == '.'
        let digits := ((c :: rest).take 3).takeWhile isOctalDigit
        if digits.length = 3 then
          Char.ofNat (octalValue digits % 256) :: go fuel (rest.drop 2)
        else match c with
          | 'n' => '\n' :: go fuel rest
          | 'r' => '\r' :: go fuel rest
          | 'a' => '\x07' :: go fuel rest
          | 'e' => '\x1b' :: go fuel rest
          | 'u' => "root".toList ++ go fuel rest
          | 'h' => host.takeWhile (· != '.') ++ go fuel rest
          | 'H' => host ++ go fuel rest
          | 'w' => withTilde v place ++ go fuel rest
          | 'W' =>
              let shown := withTilde v place
              (if shown = ['/'] then shown else lastPart shown) ++ go fuel rest
          | 's' => lastPart v.name ++ go fuel rest
          | 'v' => List.intercalate ['.'] ((Text.splitWhen (· == '.') numbers).take 2) ++ go fuel rest
          | 'V' => numbers ++ go fuel rest
          | '$' => '#' :: go fuel rest
          | '!' | '#' => '1' :: go fuel rest
          | 'j' => '0' :: go fuel rest
          | '\\' => '\\' :: go fuel rest
          | '[' | ']' => go fuel rest
          | c => '\\' :: c :: go fuel rest
    | fuel + 1, c :: rest => c :: go fuel rest

end Shell

end Conformance
