import Conformance.Computer.Shell.Reader.Word

/-!
# Reading commands

A script is read one complete command at a time: the commands up to the end of a line, and the lines
that belong to the same compound command.
-/

namespace Conformance

namespace Shell

def closingWords : List String :=
  ["then", "elif", "else", "fi", "do", "done", "esac", "\x7d"]

/-- The commands whose arguments may be assignments. -/
def declarationWords : List String := ["declare", "typeset", "local", "export", "readonly"]

/-! ## Redirections -/

/-- The word of a here-document with its quotes taken away, and whether there were any. -/
def delimiterOf (word : Word) : Octets × Bool :=
  word.foldl (fun (s, quoted) part =>
    match part with
    | .text t q => (s ++ t, quoted || q)
    | .parameter name _ _ _ _ => (s ++ '$' :: name, quoted)
    | _ => (s, quoted)) ([], false)

/-- The variable in braces in front of a redirection, and the length of both. -/
def receiver? (s : Octets) : Option (Octets × Nat) :=
  match s with
  | '{' :: rest =>
      let name := rest.takeWhile fun c => c != '}' && !isMeta c && c != '"' && c != '\''
      let bare := name.takeWhile (· != '[')
      if isName bare && (rest.drop name.length).head? == some '}' &&
          (bare.length = name.length || name.getLast? == some ']') then
        some (name, name.length + 2)
      else none
  | _ => none

/-- Cuts the lines of a here-document out of a text that begins on the line of its operator: the
document, the text without it, and how many lines it took. -/
def cutDocument (strip : Bool) (delimiter : Octets) (s : Octets) : Octets × Octets × Nat :=
  let thisLine := s.takeWhile (· != '\n')
  let lines := Text.splitWhen (· == '\n') ((s.dropWhile (· != '\n')).drop 1)
  let stripped := if strip then lines.map (List.dropWhile (· == '\t')) else lines
  let body := stripped.takeWhile (· != delimiter)
  let after := lines.drop (body.length + 1)
  let missesEnd := body.length == lines.length
  let text := List.intercalate ['\n'] body
  let whole := if missesEnd then text else body.flatMap (· ++ ['\n'])
  (whole, thisLine ++ '\n' :: List.intercalate ['\n'] after, body.length + 1)

/-- The kind of a redirection operator at the front of a text, its standard descriptor, its length,
and whether tabs are taken off its lines. -/
def operatorOf (extended : Bool) : Octets → Option (RedirectionKind × Nat × Nat × Bool)
  | '<' :: '<' :: '<' :: _ =>
      if extended then some (.hereWord, 0, 3, false) else some (.here, 0, 2, false)
  | '<' :: '<' :: '-' :: _ => some (.here, 0, 3, true)
  | '<' :: '<' :: _ => some (.here, 0, 2, false)
  | '<' :: '&' :: _ => some (.duplicateInput, 0, 2, false)
  | '<' :: '>' :: _ => some (.readWrite, 0, 2, false)
  | '<' :: '(' :: _ => if extended then none else some (.read, 0, 1, false)
  | '<' :: _ => some (.read, 0, 1, false)
  | '>' :: '>' :: _ => some (.append, 1, 2, false)
  | '>' :: '&' :: _ => some (.duplicateOutput, 1, 2, false)
  | '>' :: '|' :: _ => some (.overwrite, 1, 2, false)
  | '>' :: '(' :: _ => if extended then none else some (.write, 1, 1, false)
  | '>' :: _ => some (.write, 1, 1, false)
  | '&' :: '>' :: '>' :: _ => if extended then some (.appendBoth, 1, 3, false) else none
  | '&' :: '>' :: _ => if extended then some (.writeBoth, 1, 2, false) else none
  | _ => none

def readWord (script : Reader Command) : Reader Word := do
  Reader.blanks
  let s ← Reader.rest
  match s with
  | [] => Reader.reject none
  | c :: after =>
      let passage := (← Reader.isExtended) && (c == '<' || c == '>') && after.head? == some '('
      if isMeta c && !passage then Reader.reject none else readIn script .bare

def readRedirection? (script : Reader Command) : Reader (Option Redirection) := do
  Reader.blanks
  let s ← Reader.rest
  let extended ← Reader.isExtended
  let digits := s.takeWhile Char.isDigit
  if digits.length > 1 && !extended then return none
  let named? := if extended then receiver? s else none
  let front := (named?.map Prod.snd).getD digits.length
  match operatorOf extended (s.drop front) with
  | none => return none
  | some (kind, standard, size, strip) => do
      if front > 0 && (s.drop front).head? == some '&' then return none
      Reader.advance (front + size)
      let descriptor := if digits.isEmpty then standard
        else digits.foldl (fun n d => 10 * n + (d.toNat - '0'.toNat)) 0
      let make (target : Word) : Option Redirection := match named? with
        | some (x, _) => some (.named x kind target)
        | none => some (.mk descriptor kind target)
      if kind = .here then
        let verbatim := (← get).verbatim
        modify fun scan => { scan with verbatim := false }
        let (delimiter, quoted) := delimiterOf (← readWord script)
        modify fun scan => { scan with verbatim }
        let (body, rest, lines) := cutDocument strip delimiter (← Reader.rest)
        modify fun scan => { scan with text := rest, skipped := scan.skipped + lines }
        if verbatim then
          return make [.text (if strip then ['-'] else []) false, .text delimiter quoted,
            .text body false]
        else if quoted then return make [.text body true]
        else return make (← readQuotedText script body)
      else return make (← readWord script)

def readRedirections (script : Reader Command) (fuel : Nat) : Reader (List Redirection) := do
  match fuel with
  | 0 => return []
  | fuel + 1 =>
    match ← readRedirection? script with
    | none => return []
    | some r => return r :: (← readRedirections script fuel)

/-! ## Assignments -/

def bracketed? (depth size : Nat) : Octets → Option Nat
  | [] => none
  | '\n' :: _ => none
  | '[' :: rest => bracketed? (depth + 1) (size + 1) rest
  | ']' :: rest => if depth ≤ 1 then some (size + 1) else bracketed? (depth - 1) (size + 1) rest
  | _ :: rest => bracketed? depth (size + 1) rest

/-- An assignment at the front of a text: its name, whether it has an index, whether it appends. -/
def assignmentAt? (extended : Bool) (s : Octets) : Option (Octets × Bool × Bool) :=
  let name := s.takeWhile isNameChar
  if !isName name then none
  else
    let equals (indexed : Bool) : Octets → Option (Octets × Bool × Bool)
      | '=' :: _ => some (name, indexed, false)
      | '+' :: '=' :: _ => if extended then some (name, indexed, true) else none
      | _ => none
    match s.drop name.length with
    | '[' :: after =>
        if extended then
          (bracketed? 0 0 ('[' :: after)).bind fun size => equals true (('[' :: after).drop size)
        else none
    | after => equals false after

def readItems (script : Reader Command) (fuel : Nat) : Reader (List Item) := do
  match fuel with
  | 0 => Reader.fail .tooDeep
  | fuel + 1 =>
    Reader.newlines fuel
    let s ← Reader.rest
    match s with
    | [] => Reader.fail (.unclosed ")")
    | ')' :: _ => do
        Reader.advance 1
        return []
    | '[' :: _ =>
        let after := ((bracketed? 0 0 s).map fun size => s.drop size).getD []
        let appends := after.take 2 == ['+', '=']
        if appends || after.head? == some '=' then do
          Reader.advance 1
          let index ← readIn script .inIndex
          Reader.advance (if appends then 3 else 2)
          let value ← readIn script .bare
          return .mk (some index) appends value :: (← readItems script fuel)
        else return .mk none false (← readWord script) :: (← readItems script fuel)
    | _ => return .mk none false (← readWord script) :: (← readItems script fuel)

def readValue (script : Reader Command) : Reader Word := do
  if (← Reader.isExtended) && (← Reader.peek?) == some '(' then do
    Reader.advance 1
    return [.items (← readItems script (← Reader.bound))]
  else readIn script .bare

def readAssignment (script : Reader Command) (name : Octets) (indexed appends : Bool) :
    Reader Assignment := do
  Reader.advance name.length
  let index ← if indexed then do
      Reader.advance 1
      let index ← readIn script .inIndex
      Reader.advance 1
      pure (some index)
    else pure none
  Reader.advance (if appends then 2 else 1)
  return .mk name index appends (← readValue script)

def readArgument (script : Reader Command) (declares : Bool) : Reader Word := do
  let s ← Reader.rest
  match (if declares then assignmentAt? true s else none) with
  | some (name, false, appends) => do
      let mark := if appends then 2 else 1
      let front := name.length + mark
      if (s.drop front).head? == some '(' then do
        Reader.advance front
        if (← get).verbatim then do
          let (written, _) ← Reader.writing (readValue script)
          return [.text (s.take front ++ written) false]
        else return .text (s.take front) false :: (← readValue script)
      else readWord script
  | _ => readWord script

/-- The word is one of the given names, without quotes. -/
def isOneOf (names : List String) (word : Word) : Bool :=
  match word with
  | [.text s false] => names.any (·.toList = s)
  | _ => false

def readSimple (script : Reader Command) (fuel : Nat) (start : Scan)
    (assignments : List Assignment) (words : List Word) (redirections : List Redirection) :
    Reader Command := do
  match fuel with
  | 0 => Reader.fail .tooDeep
  | n + 1 =>
    let done : Reader Command := do
      return .simple ⟨start.line, start.text, (← get).text⟩ assignments words redirections
    match ← readRedirection? script with
    | some r => readSimple script n start assignments words (redirections ++ [r])
    | none =>
      let extended ← Reader.isExtended
      if words.isEmpty || (← get).aliasNext then do
        modify fun s => { s with aliasNext := false }
        Reader.aliases n
      let s ← Reader.rest
      match s with
      | [] => done
      | c :: after =>
        let passage := extended && (c == '<' || c == '>') && after.head? == some '('
        -- A parenthesis behind one word begins the definition of a function.
        if c == '(' && words.length = 1 && assignments.isEmpty && redirections.isEmpty then do
          Reader.advance 1
          Reader.reject (some ")")
        if isMeta c && !passage then done
        else match (if words.isEmpty then assignmentAt? extended s else none) with
          | some (name, indexed, appends) => do
              let a ← if start.verbatim then do
                  let (written, _) ← Reader.writing (readAssignment script name indexed appends)
                  pure (.mk written none false [])
                else readAssignment script name indexed appends
              readSimple script n start (assignments ++ [a]) words redirections
          | none => do
              let declares := extended && words.head?.any (isOneOf declarationWords)
              let word ← readArgument script declares
              readSimple script n start assignments (words ++ [word]) redirections

/-! ## Conditions in double brackets -/

def isConditionUnary (op : Octets) : Bool :=
  match op with
  | ['-', c] => "abcdefghknoprstuvwxzLOGSNR".toList.contains c
  | _ => false

def conditionOperators : List String :=
  ["==", "!=", "=~", "=", "-eq", "-ne", "-lt", "-le", "-gt", "-ge", "-nt", "-ot", "-ef"]

/-- Reads a word of a condition.  A pattern may hold alternatives. -/
def readOperand (script : Reader Command) (setting : Setting) : Reader Word := do
  let before := (← get).alternatives
  Reader.newlines (← Reader.bound)
  let s ← Reader.rest
  if setting == .bare && s.head?.any isMeta then Reader.reject none
  modify fun s => { s with alternatives := setting == .bare }
  let word ← readIn script setting
  modify fun s => { s with alternatives := before }
  return word

mutual

def readDisjunction (script : Reader Command) (fuel : Nat) : Reader Condition := do
  match fuel with
  | 0 => Reader.fail .tooDeep
  | fuel + 1 =>
    let first ← readConjunction script fuel
    Reader.newlines fuel
    match ← Reader.rest with
    | '|' :: '|' :: _ => do
        Reader.advance 2
        return .either first (← readDisjunction script fuel)
    | _ => return first

def readConjunction (script : Reader Command) (fuel : Nat) : Reader Condition := do
  match fuel with
  | 0 => Reader.fail .tooDeep
  | fuel + 1 =>
    let first ← readConditionPart script fuel
    Reader.newlines fuel
    match ← Reader.rest with
    | '&' :: '&' :: _ => do
        Reader.advance 2
        return .both first (← readConjunction script fuel)
    | _ => return first

def readConditionPart (script : Reader Command) (fuel : Nat) : Reader Condition := do
  match fuel with
  | 0 => Reader.fail .tooDeep
  | fuel + 1 =>
    Reader.newlines fuel
    let s ← Reader.rest
    let here := plainWord s
    match s with
    | '(' :: _ => do
        Reader.advance 1
        let inner ← readDisjunction script fuel
        Reader.newlines fuel
        match ← Reader.peek? with
        | some ')' => do
            Reader.advance 1
            return .grouped inner
        | _ => Reader.reject none
    | _ =>
      if here = ['!'] then do
        Reader.advance 1
        return .not (← readConditionPart script fuel)
      else if here = "]]".toList then Reader.reject none
      else if isConditionUnary here &&
          plainWord (skipBlanks (s.drop here.length)) != "]]".toList &&
          !conditionOperators.any (·.toList = plainWord (skipBlanks (s.drop here.length))) then do
        Reader.advance here.length
        return .unary here (← readOperand script .bare)
      else do
        let first ← readOperand script .bare
        Reader.newlines fuel
        let s ← Reader.rest
        let op := plainWord s
        match s with
        | '<' :: _ | '>' :: _ => do
            Reader.advance 1
            return .binary (s.take 1) first (← readOperand script .bare)
        | _ =>
          if conditionOperators.any (·.toList = op) then do
            Reader.advance op.length
            let setting := if op = "=~".toList then Setting.inRegex else .bare
            return .binary op first (← readOperand script setting)
          else return .filled first

end

/-! ## Lists of commands -/

/-- Where a list of commands ends. -/
inductive ListEnd where
  | line
  /-- Before a closing word, a closing parenthesis or the end of an arm; the list may have to hold
  a command. -/
  | closing (needed : Bool)
  deriving DecidableEq, Repr

def expectWord (word : String) : Reader Unit := do
  Reader.newlines (← Reader.bound)
  let s ← Reader.rest
  let here := plainWord s
  if here = word.toList then Reader.advance here.length
  else Reader.reject (some word)

def readWords (script : Reader Command) (fuel : Nat) : Reader (List Word) := do
  match fuel with
  | 0 => return []
  | n + 1 =>
    Reader.blanks
    match ← Reader.rest with
    | [] => return []
    | c :: after =>
        let passage := (← Reader.isExtended) && (c == '<' || c == '>') && after.head? == some '('
        if isMeta c && !passage then return []
        else return (← readWord script) :: (← readWords script n)

/-- Reads the patterns of an arm of a choice, and the parenthesis behind them. -/
def readPatterns (script : Reader Command) (fuel : Nat) : Reader (List Word) := do
  match fuel with
  | 0 => Reader.fail .tooDeep
  | n + 1 =>
    Reader.blanks
    if (← Reader.rest).isEmpty then Reader.reject (some ")")
    let word ← readWord script
    Reader.blanks
    let s ← Reader.rest
    match s with
    | '|' :: _ => do
        Reader.advance 1
        return word :: (← readPatterns script n)
    | ')' :: _ => do
        Reader.advance 1
        return [word]
    | _ => Reader.reject (some ")")

def sequenceOf : Command → Command → Command
  | .nothing, c => c
  | c, .nothing => c
  | a, b => .sequence a b

def isDefinition (s : Octets) : Bool :=
  match skipBlanks s with
  | '(' :: rest => (skipBlanks rest).head? == some ')'
  | _ => false

def behindDefinition (s : Octets) : Octets :=
  if isDefinition s then (skipBlanks ((skipBlanks s).drop 1)).drop 1 else s

/-- The name of a function may be less regular in the extended dialect. -/
def isFunctionName (extended : Bool) (s : Octets) : Bool :=
  if extended then !s.isEmpty && s.all fun c => !"$'\"\\=".toList.contains c && c != '`'
  else isName s && !specialNames.any (·.toList = s)

def withErrors : Command → Command
  | .simple line assignments words redirections =>
      .simple line assignments words
        (redirections ++ [.mk 2 .duplicateOutput [.text ['1'] false]])
  | c => .redirected c [.mk 2 .duplicateOutput [.text ['1'] false]]

def expressionParts (s : Octets) : List Octets := Text.splitWhen (· == ';') s

def readArmEnd : Reader ArmEnd := do
  match ← Reader.rest with
  | ';' :: ';' :: '&' :: _ =>
      if ← Reader.isExtended then do
        Reader.advance 3
        return .testsNext
      else do
        Reader.advance 2
        return .leaves
  | ';' :: ';' :: _ => do
      Reader.advance 2
      return .leaves
  | ';' :: '&' :: _ => do
      Reader.advance 2
      return .runsNext
  | _ => return .leaves

def compoundWords : List String :=
  ["\x7b", "if", "while", "until", "for", "case", "select", "[["]

mutual

def readEnclosed (fuel : Nat) : Reader Command := do
  match fuel with
  | 0 => Reader.fail .tooDeep
  | fuel + 1 =>
    let body ← readList fuel (.closing false)
    let s ← Reader.rest
    match s with
    | ')' :: _ => do
        Reader.advance 1
        return body
    | [] => Reader.fail (.unclosed ")")
    | _ => Reader.reject (some ")")

def readList (fuel : Nat) (ending : ListEnd) : Reader Command := do
  match fuel with
  | 0 => Reader.fail .tooDeep
  | fuel + 1 =>
    let oneLine := ending == .line
    let extended ← Reader.isExtended
    if oneLine then Reader.blanks else Reader.newlines (← Reader.bound)
    let s ← Reader.rest
    let close : Reader Command :=
      if ending == .closing false then return .nothing else Reader.reject none
    -- The end of the text is left to what encloses the list.
    match s with
    | [] => return .nothing
    | '\n' :: _ => do
        Reader.advance 1
        return .nothing
    | ')' :: _ | ';' :: ';' :: _ => close
    | ';' :: '&' :: _ => if extended then close else Reader.reject none
    | _ =>
      let here := plainWord s
      if closingWords.any (·.toList = here) then close
      else do
        let line := (← get).line
        let first ← readAndOr fuel
        let origin : Origin := ⟨line, s, (← Reader.rest)⟩
        Reader.blanks
        let s ← Reader.rest
        let more : ListEnd := if oneLine then .line else .closing false
        match s with
        | ';' :: ';' :: _ => if oneLine then Reader.reject none else return first
        | ';' :: '&' :: _ =>
            if extended && !oneLine then return first
            else do
              Reader.advance 1
              Reader.reject none
        | ';' :: _ => do
            Reader.advance 1
            return sequenceOf first (← readList fuel more)
        | '&' :: _ => do
            Reader.advance 1
            return sequenceOf (.background origin first) (← readList fuel more)
        | '\n' :: _ =>
            if oneLine then do
              Reader.advance 1
              return first
            else return sequenceOf first (← readList fuel more)
        | [] => return first
        | ')' :: _ => if oneLine then Reader.reject none else return first
        | rest =>
            let here := plainWord rest
            if oneLine || !closingWords.any (·.toList = here) then
              Reader.reject none
            else return first

def readAndOr (fuel : Nat) : Reader Command := do
  match fuel with
  | 0 => Reader.fail .tooDeep
  | fuel + 1 =>
    let first ← readPipeline fuel
    readAndOrRest fuel first

def readAndOrRest (fuel : Nat) (first : Command) : Reader Command := do
  match fuel with
  | 0 => Reader.fail .tooDeep
  | fuel + 1 =>
    Reader.blanks
    match ← Reader.rest with
    | '&' :: '&' :: _ => do
        Reader.advance 2
        Reader.newlines (← Reader.bound)
        let second ← readPipeline fuel
        readAndOrRest fuel (.both first second)
    | '|' :: '|' :: _ => do
        Reader.advance 2
        Reader.newlines (← Reader.bound)
        let second ← readPipeline fuel
        readAndOrRest fuel (.either first second)
    | _ => return first

def readPipeline (fuel : Nat) : Reader Command := do
  match fuel with
  | 0 => Reader.fail .tooDeep
  | fuel + 1 =>
    Reader.blanks
    let s ← Reader.rest
    let here := plainWord s
    let extended ← Reader.isExtended
    if here = ['!'] then do
      Reader.advance 1
      Reader.blanks
      if !extended && plainWord (← Reader.rest) = ['!'] then Reader.reject none
      return .negation (← readPipeline fuel)
    else if extended && here = "time".toList then do
      Reader.advance 4
      Reader.blanks
      let portable := plainWord (← Reader.rest) = ['-', 'p']
      if portable then Reader.advance 2
      Reader.blanks
      match ← Reader.peek? with
      | none | some '\n' | some ';' => return .timed portable .nothing
      | some _ => return .timed portable (← readPipeline fuel)
    else do
      let first ← readCommand fuel
      readStages fuel [first]

/-- Reads the rest of a pipeline; its commands so far are newest first. -/
def readStages (fuel : Nat) (stages : List Command) : Reader Command := do
  match fuel with
  | 0 => Reader.fail .tooDeep
  | fuel + 1 =>
    Reader.blanks
    let extended ← Reader.isExtended
    let next (size : Nat) (stages : List Command) : Reader Command := do
      Reader.advance size
      Reader.newlines (← Reader.bound)
      let c ← readCommand fuel
      readStages fuel (c :: stages)
    match ← Reader.rest, stages with
    | '|' :: '|' :: _, [c] => return c
    | '|' :: '|' :: _, stages => return .pipeline stages.reverse
    | '|' :: '&' :: _, c :: earlier =>
        if extended then next 2 (withErrors c :: earlier)
        else do
          Reader.advance 1
          Reader.reject none
    | '|' :: _, stages => next 1 stages
    | _, [c] => return c
    | _, stages => return .pipeline stages.reverse

def readCommand (fuel : Nat) : Reader Command := do
  match fuel with
  | 0 => Reader.fail .tooDeep
  | fuel + 1 =>
    Reader.blanks
    Reader.aliases (← Reader.bound)
    let scan ← get
    let s := scan.text
    let extended := scan.dialect == .extended
    let script := readEnclosed fuel
    match s with
    | [] => Reader.reject none
    | '(' :: rest =>
        match (if extended && rest.head? == some '(' then upToDoubleParenthesis? false (rest.drop 1)
          else none) with
        | some (expression, after) => do
            Reader.jump after
            withRedirections fuel (.evaluation (← readQuotedText script expression))
        | none => do
            Reader.advance 1
            let body ← readList fuel (.closing true)
            match ← Reader.peek? with
            | some ')' => do
                Reader.advance 1
                withRedirections fuel (.subshell body)
            | _ => Reader.reject (some ")")
    | _ =>
      let here := plainWord s
      let afterHere := s.drop here.length
      if here.isEmpty && (operatorOf extended s).isNone && !(extended && s.take 2 = ['<', '(']) then
        Reader.reject none
      else if here = "\x7b".toList then do
        Reader.advance 1
        let body ← readList fuel (.closing true)
        expectWord "\x7d"
        withRedirections fuel (if scan.verbatim then .redirected body [] else body)
      else if here = "if".toList then do
        Reader.advance 2
        withRedirections fuel (← readBranches fuel)
      else if here = "while".toList || here = "until".toList then do
        Reader.advance 5
        let condition ← readList fuel (.closing true)
        let body ← readBody fuel
        withRedirections fuel (.loop (here = "while".toList) condition body)
      else if here = "for".toList || (extended && here = "select".toList) then do
        Reader.advance here.length
        let loop ← readEach fuel
        withRedirections fuel (match loop with
          | .each name words body =>
              if here = "select".toList then .menu name words body else loop
          | loop => loop)
      else if here = "case".toList then do
        Reader.advance 4
        let word ← readWord script
        expectWord "in"
        withRedirections fuel (.choice word (← readArms fuel))
      else if extended && here = "[[".toList then do
        Reader.advance 2
        let condition ← readDisjunction script (← Reader.bound)
        expectWord "]]"
        withRedirections fuel (.examination condition)
      else if extended && here = "function".toList then do
        Reader.advance here.length
        Reader.blanks
        let name := plainWord (← Reader.rest)
        Reader.advance name.length
        Reader.jump (behindDefinition (← Reader.rest))
        Reader.newlines (← Reader.bound)
        let body ← readCommand fuel
        return .definition ⟨scan.line, s, (← Reader.rest)⟩ name body
      else if extended && here = "coproc".toList then do
        Reader.advance here.length
        Reader.blanks
        let first := plainWord (← Reader.rest)
        let second := plainWord (skipBlanks ((← Reader.rest).drop first.length))
        let opens (word : Octets) (behind : Octets) : Bool :=
          compoundWords.any (·.toList = word) || (word.isEmpty && behind.head? == some '(')
        if !opens first (← Reader.rest) &&
            opens second (skipBlanks ((← Reader.rest).drop first.length)) then do
          Reader.advance first.length
          return .coprocess first (← readCommand fuel)
        else return .coprocess "COPROC".toList (← readCommand fuel)
      else if (reservedWords extended).any (·.toList = here) then Reader.reject none
      else if !here.isEmpty && isDefinition afterHere && (assignmentAt? extended s).isNone then do
        if !isFunctionName extended here then Reader.fail (.badName here)
        Reader.jump (behindDefinition afterHere)
        Reader.newlines (← Reader.bound)
        let body ← readCommand fuel
        return .definition ⟨scan.line, s, (← Reader.rest)⟩ here body
      else readSimple script (← Reader.bound) scan [] [] []

def readBranches (fuel : Nat) : Reader Command := do
  match fuel with
  | 0 => Reader.fail .tooDeep
  | fuel + 1 =>
    let condition ← readList fuel (.closing true)
    expectWord "then"
    let yes ← readList fuel (.closing true)
    Reader.newlines (← Reader.bound)
    let here := plainWord (← Reader.rest)
    if here = "elif".toList then do
      Reader.advance 4
      return .conditional condition yes (← readBranches fuel)
    else if here = "else".toList then do
      Reader.advance 4
      let no ← readList fuel (.closing true)
      expectWord "fi"
      return .conditional condition yes no
    else do
      expectWord "fi"
      return .conditional condition yes .nothing

/-- Reads a loop's commands between `do` and `done`. -/
def readBody (fuel : Nat) : Reader Command := do
  match fuel with
  | 0 => Reader.fail .tooDeep
  | fuel + 1 =>
    expectWord "do"
    let body ← readList fuel (.closing true)
    expectWord "done"
    return body

def readEach (fuel : Nat) : Reader Command := do
  match fuel with
  | 0 => Reader.fail .tooDeep
  | fuel + 1 =>
    Reader.blanks
    let s ← Reader.rest
    let extended ← Reader.isExtended
    let script := readEnclosed fuel
    match (if extended && s.take 2 == ['(', '('] then upToDoubleParenthesis? false (s.drop 2)
      else none) with
    | some (inner, after) => do
        Reader.jump after
        Reader.blanks
        if (← Reader.peek?) == some ';' then Reader.advance 1
        let part (n : Nat) : Reader Word :=
          readQuotedText script ((expressionParts inner).getD n [])
        return .counting (← part 0) (← part 1) (← part 2) (← readBody fuel)
    | none => do
        let name := plainWord s
        if !isName name then Reader.fail (.badVariable name)
        Reader.advance name.length
        Reader.blanks
        if (← Reader.peek?) == some ';' then Reader.advance 1
        Reader.newlines (← Reader.bound)
        let s ← Reader.rest
        let words ← if plainWord s = "in".toList then do
            Reader.advance 2
            let words ← readWords script (← Reader.bound)
            Reader.blanks
            match ← Reader.peek? with
            | some ';' => Reader.advance 1
            | some '\n' | none => pure ()
            | some _ => Reader.reject none
            pure (some words)
          else pure none
        return .each name words (← readBody fuel)

def readArms (fuel : Nat) : Reader (List Arm) := do
  match fuel with
  | 0 => Reader.fail .tooDeep
  | fuel + 1 =>
    Reader.newlines (← Reader.bound)
    let s ← Reader.rest
    if plainWord s = "esac".toList then do
      Reader.advance 4
      return []
    else do
      if s.head? == some '(' then Reader.advance 1
      let patterns ← readPatterns (readEnclosed fuel) (← Reader.bound)
      let body ← readList fuel (.closing false)
      Reader.newlines (← Reader.bound)
      let s ← Reader.rest
      if s.head? == some ';' then do
        let behind ← readArmEnd
        return (patterns, body, behind) :: (← readArms fuel)
      else if plainWord s = "esac".toList then do
        Reader.advance 4
        return [(patterns, body, .leaves)]
      else Reader.reject (some ";;")

def withRedirections (fuel : Nat) (c : Command) : Reader Command := do
  match fuel with
  | 0 => Reader.fail .tooDeep
  | fuel + 1 =>
    let redirections ← readRedirections (readEnclosed fuel) (← Reader.bound)
    return if redirections.isEmpty then c else .redirected c redirections

end

/-- Reads the next complete command of a script and what follows it; `none` at the end. -/
def nextCommand (scan : Scan) : Except Rejection (Option (Command × Scan)) := do
  let fuel := 12 * scan.text.length + 24
  let ((), start) ← (Reader.newlines fuel).run { scan with active := [], aliasNext := false }
  if start.text.isEmpty then return none
  let (c, rest) ← (readList fuel .line).run start
  return some (c, rest)

end Shell

end Conformance
