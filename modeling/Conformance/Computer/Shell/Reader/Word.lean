import Conformance.Computer.Shell.Reader.Basic

/-!
# Reading words

A word is read up to a character that ends it.  Where it ends, and what a backslash protects in it,
depends on what stands around it.  The commands inside a word are read by a reader that is given.
The readers take fuel, of which each nested reader gets one unit less; the length of the text bounds
how deep they nest.
-/

namespace Conformance

namespace Shell

/-- Where parts of words are read. -/
inductive Setting where
  | bare
  | inQuotes
  /-- The word inside a parameter's braces, perhaps itself inside quotes; it may also end at another
  character. -/
  | inBraces (quoted : Bool) (stop : Option Char)
  | inText
  | inIndex
  | inGroup
  | inRegex
  | inRegexGroup
  deriving DecidableEq, Repr

namespace Setting

def isQuoted : Setting → Bool
  | inQuotes | inBraces true _ | inText => true
  | _ => false

/-- Whether a character ends the parts; it is left in the text. -/
def stopsAt : Setting → Char → Bool
  | bare, c => isMeta c
  | inQuotes, c => c == '"'
  | inBraces _ stop, c => c == '}' || stop == some c
  | inText, _ => false
  | inIndex, c => c == ']'
  | inGroup, c | inRegexGroup, c => c == ')'
  | inRegex, c => isMeta c && c != '(' && c != '|'

def closing : Setting → String
  | inBraces .. => "\x7d"
  | inIndex => "]"
  | inGroup | inRegexGroup => ")"
  | _ => "\""

def mayEnd : Setting → Bool
  | bare | inText | inRegex => true
  | _ => false

def protects (s : Setting) (c : Char) : Bool :=
  if s.isQuoted then c == '$' || c == '`' || c == '\\' || (c == '"' && s != .inText) ||
    (c == '}' && s == .inBraces true none)
  else true

def pairsParentheses (s : Setting) : Bool := s == inRegex || s == inRegexGroup

def opensQuotes : Setting → Bool
  | inQuotes | inText => false
  | _ => true

end Setting

def braced (quoted : Bool) : Setting := .inBraces quoted none

def fallbackOf? : Char → Option Fallback
  | '-' => some .default
  | '=' => some .assign
  | '?' => some .require
  | '+' => some .alternative
  | _ => none

/-! ## Quoted escapes -/

def octalValue (digits : Octets) : Nat :=
  digits.foldl (fun n d => 8 * n + (d.toNat - '0'.toNat)) 0

def hexadecimalValue (digits : Octets) : Nat :=
  digits.foldl (fun n d => 16 * n +
    (if d.isDigit then d.toNat - '0'.toNat else d.toLower.toNat - 'a'.toNat + 10)) 0

def isOctalDigit (c : Char) : Bool := '0' ≤ c && c ≤ '7'

def isHexadecimalDigit (c : Char) : Bool :=
  c.isDigit || ('a' ≤ c && c ≤ 'f') || ('A' ≤ c && c ≤ 'F')

/-- What an escape of quotes behind a dollar stands for, and how many characters behind the
backslash it takes. -/
def quotedEscape (wide : Bool) (c : Char) (rest : Octets) : Octets × Nat :=
  let hexadecimal (most : Nat) (f : Nat → Octets) : Octets × Nat :=
    let digits := (rest.take most).takeWhile isHexadecimalDigit
    if digits.isEmpty then (['\\', c], 1) else (f (hexadecimalValue digits), digits.length + 1)
  if isOctalDigit c then
    let digits := ((c :: rest).take 3).takeWhile isOctalDigit
    ([Char.ofNat (octalValue digits % 256)], digits.length)
  else match c with
    | 'a' => (['\x07'], 1)
    | 'b' => (['\x08'], 1)
    | 'e' | 'E' => (['\x1b'], 1)
    | 'f' => (['\x0c'], 1)
    | 'n' => (['\n'], 1)
    | 'r' => (['\r'], 1)
    | 't' => (['\t'], 1)
    | 'v' => (['\x0b'], 1)
    | '\\' | '\'' | '"' | '?' => ([c], 1)
    | 'x' =>
        match rest with
        | '\x7b' :: inner =>
            let digits := inner.takeWhile isHexadecimalDigit
            let closing := if (inner.drop digits.length).head? == some '\x7d' then 1 else 0
            ([Char.ofNat (hexadecimalValue digits % 256)], digits.length + 2 + closing)
        | _ => hexadecimal 2 fun n => [Char.ofNat n]
    | 'u' => hexadecimal 4 (Octets.ofCode wide)
    | 'U' => hexadecimal 8 (Octets.ofCode wide)
    | 'c' =>
        match rest with
        | '?' :: _ => (['\x7f'], 2)
        | '\\' :: '\\' :: _ => (['\x1c'], 3)
        | d :: _ => ([Char.ofNat (d.toUpper.toNat % 32)], 2)
        | [] => (['\\', 'c'], 1)
    | c => (['\\', c], 1)

/-- The text with its escapes carried out, as between quotes behind a dollar, up to the first
zero byte. -/
def unescaped (wide : Bool) (s : Octets) : Octets :=
  (go s.length s).takeWhile (· != '\x00')
where
  go (fuel : Nat) (s : Octets) : Octets :=
    match fuel, s with
    | _, [] => []
    | 0, s => s
    | fuel + 1, '\\' :: c :: rest =>
        let (text, size) := quotedEscape wide c rest
        text ++ go fuel (rest.drop (size - 1))
    | fuel + 1, c :: rest => c :: go fuel rest

/-- What stands in front of a closing quote, where a backslash takes the character behind it
along, and what follows the quote. -/
def upToQuote (taken : Octets) : Octets → Option (Octets × Octets)
  | [] => none
  | '\'' :: rest => some (taken.reverse, rest)
  | '\\' :: c :: rest => upToQuote (c :: '\\' :: taken) rest
  | c :: rest => upToQuote (c :: taken) rest

/-! ## Parts -/

def outputOf (extended : Bool) (c : Command) : Command :=
  match c with
  | .simple line [] [] [.mk 0 .read target] =>
      if extended then .simple line [] [[.text "cat".toList false]] [.mk 0 .read target] else c
  | c => c

def readBackquoted (script : Reader Command) (quoted : Bool) : Reader Command := do
  let s ← get
  match upToBackquote quoted [] (s.text.drop 1) with
  | none => Reader.opening (Reader.fail (.unclosed "`"))
  | some (inner, after) => do
      Reader.jump after
      let (c, left) ← (script.run { s with text := inner ++ ['\n', ')'], active := [] } :
        Except Rejection _)
      if left.text.isEmpty then return c
      else Reader.fail (.unexpected (.sign [')']) none)

def readScript (script : Reader Command) (skipped : Nat) : Reader Command := do
  Reader.advance skipped
  script

/-- The part stands for any number of fields, and for none where there is nothing. -/
def spreads : Part → Bool
  | .parameter _ _ _ (.fallback ..) _ => false
  | .parameter name index false _ true =>
      name == ['@'] || (match index with
        | .every false => true
        | _ => false)
  | _ => false

/-- Quotes make a field even where they hold nothing, unless they hold only what stands for all
arguments. -/
def quotesMakeField (extended : Bool) (inner : List Part) : Bool :=
  match inner with
  | [] => true
  | [.parameter ['@'] .whole false .plain true] => false
  | parts => !(extended && parts.all spreads)

def opensGroup (s : Octets) : Bool :=
  match s with
  | c :: '(' :: _ => c == '?' || c == '*' || c == '+' || c == '@' || c == '!'
  | _ => false

mutual

/-- Reads parts of a word up to where the setting ends them. -/
def readParts (script : Reader Command) (fuel : Nat) (setting : Setting) :
    Reader (List Part) := do
  match fuel with
  | 0 => Reader.fail .tooDeep
  | fuel + 1 =>
    let scan ← get
    let extended := scan.dialect == .extended
    match scan.text with
    | [] => if setting.mayEnd then return [] else Reader.fail (.unclosed setting.closing)
    | c :: after =>
      if extended && (c == '<' || c == '>') && after.head? == some '(' && setting == .bare then do
        let inner ← readScript script 2
        return .passage inner (c == '>') :: (← readParts script fuel setting)
      else if setting.stopsAt c then return []
      else if c == '(' && setting.pairsParentheses then do
        Reader.advance 1
        let inner ← readParts script fuel .inRegexGroup
        Reader.advance 1
        return .text ['('] false :: inner ++ .text [')'] false :: (← readParts script fuel setting)
      else if scan.alternatives && (setting == .bare || setting == .inGroup) &&
          opensGroup scan.text then do
        Reader.advance 2
        let inner ← readParts script fuel .inGroup
        Reader.advance 1
        return .text [c, '('] false :: inner ++ .text [')'] false ::
          (← readParts script fuel setting)
      else match c, after with
      | '\'', _ =>
          if setting.isQuoted then readLiteral script fuel setting
          else match after.dropWhile (· != '\'') with
            | [] => Reader.opening (Reader.fail (.unclosed "'"))
            | _ :: rest => do
                Reader.jump rest
                return .text (after.takeWhile (· != '\'')) true ::
                  (← readParts script fuel setting)
      | '"', _ =>
          if setting.opensQuotes then do
            Reader.advance 1
            let inner ← Reader.opening (readParts script fuel .inQuotes)
            Reader.advance 1
            let mark := if quotesMakeField extended inner then [Part.text [] true] else []
            return mark ++ inner ++ (← readParts script fuel setting)
          else readLiteral script fuel setting
      | '\\', '\n' :: _ => do
          Reader.advance 2
          readParts script fuel setting
      | '\\', d :: _ => do
          if setting.protects d then
            Reader.advance 2
            return .text [d] true :: (← readParts script fuel setting)
          else
            Reader.advance 1
            return .text ['\\'] true :: (← readParts script fuel setting)
      | '`', _ => do
          let inner ← readBackquoted script setting.isQuoted
          return .output inner setting.isQuoted :: (← readParts script fuel setting)
      | '$', '(' :: '(' :: inner =>
          match upToDoubleParenthesis? (!extended) inner with
          | some (expression, rest) => do
              Reader.jump rest
              -- The extended dialect does not see double quotes here.
              let expression := if extended then expression.filter (· != '"') else expression
              let (parts, _) ← ((readParts script fuel .inText).run
                { scan with text := expression, active := [] } : Except Rejection _)
              return .arithmetic parts setting.isQuoted :: (← readParts script fuel setting)
          | none =>
              if extended then do
                let inner ← readScript script 2
                return .output inner setting.isQuoted :: (← readParts script fuel setting)
              else Reader.fail (.unclosed "))")
      | '$', '(' :: _ => do
          let inner ← readScript script 2
          return .output (outputOf extended inner) setting.isQuoted ::
            (← readParts script fuel setting)
      | '$', '{' :: _ => do
          Reader.advance 2
          let part ← Reader.opening (readBraces script fuel setting.isQuoted)
          let rest ← Reader.rest
          let part := match part with
            -- A part without a meaning goes by its whole text.
            | .parameter _ _ _ .invalid quoted =>
                .parameter (scan.text.take (scan.text.length - rest.length)) .whole false .invalid
                  quoted
            | part => part
          return part :: (← readParts script fuel setting)
      | '$', '\'' :: quoted =>
          if extended && !setting.isQuoted then
            match upToQuote [] quoted with
            | none => Reader.opening (Reader.fail (.unclosed "'"))
            | some (s, rest) => do
                Reader.jump rest
                return .text (unescaped scan.wide s) true :: (← readParts script fuel setting)
          else do
            Reader.advance 1
            return .text ['$'] setting.isQuoted :: (← readParts script fuel setting)
      | '$', '"' :: _ =>
          if extended && setting.opensQuotes then do
            Reader.advance 1
            readParts script fuel setting
          else do
            Reader.advance 1
            return .text ['$'] setting.isQuoted :: (← readParts script fuel setting)
      | '$', _ =>
          let name := match parameterName after with
            | d :: rest => if isNameStart d then d :: rest else [d]
            | [] => []
          if name.isEmpty then do
            Reader.advance 1
            return .text ['$'] setting.isQuoted :: (← readParts script fuel setting)
          else do
            Reader.advance (name.length + 1)
            let isBare := extended && setting == .bare && isNameStart (name.headD ' ') &&
              (match after.drop name.length with
                | c :: _ => c == '{' || c == '}' || c == ','
                | [] => false)
            return .parameter name .whole false (if isBare then .bare else .plain)
              setting.isQuoted :: (← readParts script fuel setting)
      | _, _ => readLiteral script fuel setting

/-- Reads characters that stand for themselves, the first of them whatever it is. -/
def readLiteral (script : Reader Command) (fuel : Nat) (setting : Setting) :
    Reader (List Part) := do
  match fuel with
  | 0 => Reader.fail .tooDeep
  | fuel + 1 =>
    let s ← Reader.rest
    let grouped := (← get).alternatives
    let more := (s.drop 1).takeWhile fun c =>
      !setting.stopsAt c && !(c == '(' && setting.pairsParentheses) && c != '\\' && c != '$' && c != '`' && c != '\'' && c != '"' &&
        !(grouped && (c == '?' || c == '*' || c == '+' || c == '@' || c == '!'))
    Reader.advance (1 + more.length)
    return .text (s.take 1 ++ more) setting.isQuoted :: (← readParts script fuel setting)

def readIndex (script : Reader Command) (fuel : Nat) : Reader Index := do
  match fuel with
  | 0 => Reader.fail .tooDeep
  | fuel + 1 =>
    if !(← Reader.isExtended) then return .whole
    match ← Reader.rest with
    | '[' :: '@' :: ']' :: _ => do
        Reader.advance 3
        return .every false
    | '[' :: '*' :: ']' :: _ => do
        Reader.advance 3
        return .every true
    | '[' :: _ => do
        Reader.advance 1
        let word ← readParts script fuel .inIndex
        Reader.advance 1
        return .at word
    | _ => return .whole

def readBraces (script : Reader Command) (fuel : Nat) (quoted : Bool) : Reader Part := do
  match fuel with
  | 0 => Reader.fail .tooDeep
  | fuel + 1 =>
    let s ← Reader.rest
    let extended ← Reader.isExtended
    match s with
    | '#' :: inner => do
        let name := parameterName inner
        let next := (inner.drop name.length).head?
        if !name.isEmpty && (next == some '}' || (extended && next == some '[')) then do
          Reader.advance (name.length + 1)
          let index ← readIndex script fuel
          readEnd script fuel name index false .length quoted
        else readNamed script fuel false quoted
    | '!' :: inner => do
        let name := parameterName inner
        let after := inner.drop name.length
        if extended && !name.isEmpty then do
          Reader.advance (name.length + 1)
          match after with
          | '@' :: '}' :: _ | '*' :: '}' :: _ => do
              let joined := after.head? == some '*'
              Reader.advance 1
              readEnd script fuel name .whole false (.names joined) quoted
          | _ => do
              let index ← readIndex script fuel
              match index with
              | .every _ => readEnd script fuel name index false .keys quoted
              | _ => readBehind script fuel name index true quoted
        else readNamed script fuel false quoted
    | _ => readNamed script fuel false quoted

def readNamed (script : Reader Command) (fuel : Nat) (indirect quoted : Bool) : Reader Part := do
  match fuel with
  | 0 => Reader.fail .tooDeep
  | fuel + 1 =>
    let name := parameterName (← Reader.rest)
    Reader.advance name.length
    if name.isEmpty then do
      let _ ← readParts script fuel (braced quoted)
      readEnd script fuel [] .whole false .invalid quoted
    else do
      let index ← readIndex script fuel
      readBehind script fuel name index indirect quoted

def readEnd (script : Reader Command) (fuel : Nat) (name : Octets) (index : Index)
    (indirect : Bool) (operation : Operation) (quoted : Bool) : Reader Part := do
  match fuel with
  | 0 => Reader.fail .tooDeep
  | fuel + 1 =>
    match ← Reader.peek? with
    | some '}' => do
        Reader.advance 1
        return .parameter name index indirect operation quoted
    | none => Reader.fail (.unclosed "\x7d")
    | some _ => do
        let _ ← readParts script fuel (braced quoted)
        Reader.advance 1
        return .parameter name index indirect .invalid quoted

def readBehind (script : Reader Command) (fuel : Nat) (name : Octets) (index : Index)
    (indirect quoted : Bool) : Reader Part := do
  match fuel with
  | 0 => Reader.fail .tooDeep
  | fuel + 1 =>
    let finish (operation : Operation) : Reader Part :=
      readEnd script fuel name index indirect operation quoted
    let extended ← Reader.isExtended
    match ← Reader.rest with
    | [] => Reader.fail (.unclosed "\x7d")
    | '}' :: _ => finish .plain
    | '#' :: rest => do
        let longest := rest.head? == some '#'
        Reader.advance (if longest then 2 else 1)
        finish (.trim false longest (← readParts script fuel (braced false)))
    | '%' :: rest => do
        let longest := rest.head? == some '%'
        Reader.advance (if longest then 2 else 1)
        finish (.trim true longest (← readParts script fuel (braced false)))
    | ':' :: rest =>
        match rest.head?.bind fallbackOf? with
        | some f => do
            Reader.advance 2
            finish (.fallback f true (← readParts script fuel (braced quoted)))
        | none =>
            if extended then do
              Reader.advance 1
              let offset ← readParts script fuel (.inBraces false (some ':'))
              match ← Reader.peek? with
              | some ':' => do
                  Reader.advance 1
                  finish (.slice offset (some (← readParts script fuel (braced false))))
              | _ => finish (.slice offset none)
            else finish .invalid
    | c :: rest =>
        match fallbackOf? c with
        | some f => do
            Reader.advance 1
            finish (.fallback f false (← readParts script fuel (braced quoted)))
        | none =>
            if !extended then finish .invalid
            else match c with
              | '/' => do
                  let (reach, size) : Reach × Nat := match rest with
                    | '/' :: _ => (.every, 2)
                    | '#' :: _ => (.front, 2)
                    | '%' :: _ => (.back, 2)
                    | _ => (.first, 1)
                  Reader.advance size
                  let pattern ← readParts script fuel (.inBraces false (some '/'))
                  match ← Reader.peek? with
                  | some '/' => do
                      Reader.advance 1
                      finish (.replace reach pattern (← readParts script fuel (braced false)))
                  | _ => finish (.replace reach pattern [])
              | '^' | ',' | '~' => do
                  let all := rest.head? == some c
                  Reader.advance (if all then 2 else 1)
                  finish (.recase c all (← readParts script fuel (braced false)))
              | '@' =>
                  match rest with
                  | letter :: '}' :: _ => do
                      Reader.advance 2
                      finish (.transform letter)
                  | _ => finish .invalid
              | _ => finish .invalid

end

def readQuotedText (script : Reader Command) (s : Octets) : Reader Word := do
  let scan ← get
  if scan.verbatim then return [.text s false]
  let (parts, _) ← ((readParts script (2 * s.length + 4) .inText).run
    { scan with text := s, active := [] } : Except Rejection _)
  return parts

def readIn (script : Reader Command) (setting : Setting) : Reader Word := do
  let bound ← Reader.bound
  if (← get).verbatim then do
    let (text, _) ← Reader.writing (readParts script bound setting)
    return [.text text false]
  else readParts script bound setting

end Shell

end Conformance
