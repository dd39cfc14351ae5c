import Conformance.Computer.Utility.Records.Token

/-!
# Reading programs

Words become rules, statements and expressions.  Operators bind in levels, from the choice between
two values to the increments; a text next to another one joins it.
-/

namespace Conformance

namespace Utility

namespace Records

abbrev Reader := StateT (List Lexeme) (Except Fault)

namespace Reader

def peek : Reader Token := do
  match ← get with
  | w :: _ => return w.token
  | [] => return .finish

/-- The word behind the next one. -/
def peekSecond : Reader Token := do
  match ← get with
  | _ :: w :: _ => return w.token
  | _ => return .finish

def skip : Reader Unit := modify List.tail

def line : Reader Nat := do
  match ← get with
  | w :: _ => return w.line
  | [] => return 0

/-- Complains about the next word. -/
def refuse {α : Type} : Reader α := do
  match ← get with
  | w :: _ =>
      match w.token with
      | .finish => throw ⟨w.line + 1, "missing \x7d near end of file".toList⟩
      | .newline => throw ⟨w.line, "syntax error at or near end of line".toList⟩
      | _ => throw ⟨w.line, "syntax error at or near ".toList ++ w.spelling⟩
  | [] => throw ⟨1, "syntax error at or near end of line".toList⟩

def fail {α : Type} (message : String) : Reader α := do throw ⟨← line, message.toList⟩

def isSign (s : String) : Reader Bool := do return (← peek) == .sign s

def isKeyword (s : String) : Reader Bool := do return (← peek) == .keyword s

def accept (s : String) : Reader Bool := do
  if ← isSign s then
    skip
    return true
  return false

def expect (s : String) : Reader Unit := do
  if !(← accept s) then refuse

def skipNewlines : Reader Unit :=
  modify fun l => l.dropWhile fun w => w.token == .newline

def skipEnds : Reader Unit :=
  modify fun l => l.dropWhile fun w => w.token == .newline || w.token == .sign ";"

def takeName : Reader Octets := do
  match ← peek with
  | .name s | .callee s => do
      skip
      return s
  | _ => refuse

def compile (s : Octets) : Reader Regex := do
  match regexOf s with
  | .ok r => return r
  | .error flaw =>
      throw ⟨← line, ("regular expression compile failed (" ++ flaw.message ++ ")\n").toList ++ s⟩

end Reader

open Reader

/-- How tightly operators bind: a choice between values least, then alternatives. -/
def levelOf : Token → Option Nat
  | .sign "||" => some 0
  | .sign "&&" => some 1
  | .keyword "in" => some 2
  | .sign "~" | .sign "!~" => some 3
  | .sign "<" | .sign "<=" | .sign "==" | .sign "!=" | .sign ">" | .sign ">=" => some 4
  | .sign "+" | .sign "-" => some 6
  | .sign "*" | .sign "/" | .sign "%" => some 7
  | .name _ | .callee _ | .builtin _ | .number _ | .text _ | .regex _ => some 5
  | .sign "$" | .sign "(" | .sign "!" | .sign "++" | .sign "--" => some 5
  | _ => none

def joinLevel : Nat := 5

def unaryLevel : Nat := 8

def comparisonOf : String → Comparison
  | "<" => .less
  | "<=" => .atMost
  | "==" => .equal
  | "!=" => .unequal
  | ">" => .greater
  | _ => .atLeast

def operatorOf : String → Operator
  | "+" => .add
  | "-" => .subtract
  | "*" => .multiply
  | "/" => .divide
  | "%" => .remainder
  | _ => .power

def assignment? : Token → Option (Option Operator)
  | .sign "=" => some none
  | .sign "+=" => some (some .add)
  | .sign "-=" => some (some .subtract)
  | .sign "*=" => some (some .multiply)
  | .sign "/=" => some (some .divide)
  | .sign "%=" => some (some .remainder)
  | .sign "^=" => some (some .power)
  | _ => none

/-- An argument that is used as a regular expression. -/
def asRegex (e : Expr) : Reader Expr := do
  match e with
  | .text s => return .regex (← compile s)
  | e => return e

/-- The arguments of a function, with those that are regular expressions read as such. -/
def prepareArgs (f : Builtin) (args : List Expr) : Reader (List Expr) := do
  match f, args with
  | .replace _, r :: rest => return (← asRegex r) :: rest
  | .locate, [s, r] => return [s, ← asRegex r]
  | .split, [s, table, .text sep] =>
      if sep.length > 1 then return [s, table, .regex (← compile sep)] else return args
  | _, args => return args

mutual

/-- Reads an expression.  In the arguments of `print` a greater sign is none of it unless
parentheses stand around. -/
def readExpr (fuel : Nat) (bare : Bool) : Reader Expr := do
  match fuel with
  | 0 => refuse
  | fuel + 1 =>
    let c ← readLevel fuel bare 0
    if ← accept "?" then
      skipNewlines
      let a ← readExpr fuel bare
      skipNewlines
      expect ":"
      skipNewlines
      let b ← readExpr fuel bare
      return .choose c a b
    return c

def readLevel (fuel : Nat) (bare : Bool) (level : Nat) : Reader Expr := do
  match fuel with
  | 0 => refuse
  | fuel + 1 =>
    if level ≥ unaryLevel then readUnary fuel bare
    else readMore fuel bare level (← readLevel fuel bare (level + 1))

def readMore (fuel : Nat) (bare : Bool) (level : Nat) (left : Expr) : Reader Expr := do
  match fuel with
  | 0 => refuse
  | fuel + 1 =>
    let t ← peek
    if levelOf t != some level || (bare && t == .sign ">") then return left
    else if level = joinLevel then
      if (← isKeyword "in") then return left
      let right ← readLevel fuel bare (level + 1)
      readMore fuel bare level (.join left right)
    else
      skip
      match t with
      | .keyword _ => do
          let name ← takeName
          readMore fuel bare level (.within [left] name)
      | .sign s => do
          if s == "&&" || s == "||" then skipNewlines
          let right ← readLevel fuel bare (level + 1)
          let e ← match s with
            | "||" => pure (.or left right)
            | "&&" => pure (.and left right)
            | "~" => do pure (.agrees false left (← asRegex right))
            | "!~" => do pure (.agrees true left (← asRegex right))
            | s => pure (if level = 4 then .compare (comparisonOf s) left right
                else .arithmetic (operatorOf s) left right)
          readMore fuel bare level e
      | _ => refuse

def readUnary (fuel : Nat) (bare : Bool) : Reader Expr := do
  match fuel with
  | 0 => refuse
  | fuel + 1 =>
    if ← accept "!" then return .not (← readUnary fuel bare)
    else if ← accept "-" then return .negate (← readUnary fuel bare)
    else if ← accept "+" then return .plus (← readUnary fuel bare)
    else readPiped fuel (← readPower fuel bare)

/-- Reads what takes records from the output of a command. -/
def readPiped (fuel : Nat) (left : Expr) : Reader Expr := do
  match fuel with
  | 0 => refuse
  | fuel + 1 =>
    if (← isSign "|") && (← peekSecond) == .keyword "getline" then
      skip
      skip
      let target ← readTarget fuel
      readPiped fuel (.read (.command left) target)
    else return left

def readPower (fuel : Nat) (bare : Bool) : Reader Expr := do
  match fuel with
  | 0 => refuse
  | fuel + 1 =>
    let base ← readOperand fuel bare
    if ← accept "^" then return .arithmetic .power base (← readUnary fuel bare)
    return base

def readOperand (fuel : Nat) (bare : Bool) : Reader Expr := do
  match fuel with
  | 0 => refuse
  | fuel + 1 =>
    let e ← readStepped fuel
    match e, assignment? (← peek) with
    | .place p, some op => do
        skip
        skipNewlines
        return .assign op p (← readExpr fuel bare)
    | e, _ => return e

def readStepped (fuel : Nat) : Reader Expr := do
  match fuel with
  | 0 => refuse
  | fuel + 1 =>
    match ← peek with
    | .sign "++" => readStep fuel true
    | .sign "--" => readStep fuel false
    | _ => do
        match ← readPrimary fuel with
        | .place p =>
            if ← accept "++" then return .step false true p
            else if ← accept "--" then return .step false false p
            else return .place p
        | e => return e

def readStep (fuel : Nat) (up : Bool) : Reader Expr := do
  match fuel with
  | 0 => refuse
  | fuel + 1 =>
    skip
    match ← readPrimary fuel with
    | .place p | .grouped (.place p) => return .step true up p
    | _ => refuse

def readTarget (fuel : Nat) : Reader (Option Place) := do
  match fuel with
  | 0 => refuse
  | fuel + 1 =>
    match ← peek with
    | .name _ | .sign "$" => do
        match ← readPrimary fuel with
        | .place p => return some p
        | _ => refuse
    | _ => return none

def readPrimary (fuel : Nat) : Reader Expr := do
  match fuel with
  | 0 => refuse
  | fuel + 1 =>
    match ← peek with
    | .number x => do
        skip
        return .number x
    | .text s => do
        skip
        return .text s
    | .regex s => do
        let r ← compile s
        skip
        return .regex r
    | .sign "$" => do
        skip
        match ← peek with
        | .sign "-" => do
            skip
            return .place (.field (.negate (← readStepOrPrimary fuel)))
        | .sign "!" => do
            skip
            return .place (.field (.not (← readStepOrPrimary fuel)))
        | .name ['N', 'F'] =>
            -- An increment behind the number of fields changes that number.
            return .place (.field (← readStepped fuel))
        | _ => return .place (.field (← readStepOrPrimary fuel))
    | .sign "(" => do
        skip
        skipNewlines
        let es ← readList fuel ")"
        match es with
        | [e] =>
            -- A place in parentheses can be changed.
            match e with
            | .place p => return if assignsTo p then .place p else .grouped e
            | e => return .grouped e
        | _ =>
            if ← isKeyword "in" then
              skip
              return .within es (← takeName)
            else refuse
    | .name s => do
        skip
        if ← accept "[" then
          let index ← readList fuel "]"
          if index.isEmpty then refuse
          return .place (.element s index)
        return .place (.variable s)
    | .callee s => do
        skip
        skip
        skipNewlines
        return .call s (← readList fuel ")")
    | .builtin f => do
        skip
        if ← accept "(" then
          skipNewlines
          let args ← readList fuel ")"
          if f == .length && args.isEmpty then return .builtin f []
          return .builtin f (← prepareArgs f args)
        else if f == .length then return .builtin f []
        else refuse
    | .keyword "getline" => do
        skip
        let target ← readTarget fuel
        if ← accept "<" then return .read (.file (← readFileName fuel)) target
        return .read .input target
    | _ => refuse
where
  /-- Fields in parentheses can be changed; variables keep their parentheses. -/
  assignsTo : Place → Bool
    | .field _ => true
    | _ => false

def readFileName (fuel : Nat) : Reader Expr := do
  match fuel with
  | 0 => refuse
  | fuel + 1 =>
    let base ← readStepped fuel
    if ← accept "^" then return .arithmetic .power base (← readStepped fuel)
    return base

def readStepOrPrimary (fuel : Nat) : Reader Expr := do
  match fuel with
  | 0 => refuse
  | fuel + 1 =>
    match ← peek with
    | .sign "++" => readStep fuel true
    | .sign "--" => readStep fuel false
    | _ => readPrimary fuel

/-- Reads expressions with commas between them up to a closing sign. -/
def readList (fuel : Nat) (closing : String) : Reader (List Expr) := do
  match fuel with
  | 0 => refuse
  | fuel + 1 =>
    if ← accept closing then return []
    let e ← readExpr fuel false
    if ← accept "," then
      skipNewlines
      let rest ← readList fuel closing
      if rest.isEmpty then refuse
      return e :: rest
    skipNewlines
    expect closing
    return [e]

end

/-! ## Statements -/

/-- Where a statement stands. -/
structure Scope where
  inFunction : Bool
  inLoop : Bool
  inRule : Bool

/-- A sign or word behind which no argument of `print` follows. -/
def endsArguments : Token → Bool
  | .newline | .finish => true
  | .sign s => s == ";" || s == "\x7d" || s == ">" || s == ">>" || s == "|"
  | _ => false

/-- Reads expressions with commas between them. -/
def readBareList (fuel count : Nat) : Reader (List Expr) := do
  match count with
  | 0 => refuse
  | count + 1 =>
    let e ← readExpr fuel true
    if ← accept "," then
      skipNewlines
      return e :: (← readBareList fuel count)
    return [e]

/-- Reads the arguments of `print`, which may stand in parentheses. -/
def readArguments (fuel : Nat) : Reader (List Expr) := do
  if endsArguments (← peek) then return []
  let start ← get
  if ← isSign "(" then
    let inside : Reader (List Expr) := do
      skip
      skipNewlines
      let es ← readList fuel ")"
      if es.isEmpty || !endsArguments (← peek) then refuse
      return es
    match inside.run start with
    | .ok (es, rest) => do
        set rest
        return es
    | .error _ => readBareList fuel fuel
  else readBareList fuel fuel

def readOutput (fuel : Nat) : Reader Target := do
  if ← accept ">" then return .file false (← readExpr fuel true)
  else if ← accept ">>" then return .file true (← readExpr fuel true)
  else if ← accept "|" then return .command (← readExpr fuel true)
  else return .output

def endStatement : Reader Unit := do
  match ← peek with
  | .sign ";" | .newline => skip
  | .sign "\x7d" | .finish => return
  | _ => refuse

/-- Reads a statement without a body of its own, up to its end. -/
def readSimple (fuel : Nat) (scope : Scope) : Reader Statement := do
  let valueOf : Reader (Option Expr) := do
    if endsArguments (← peek) then return none else return some (← readExpr fuel false)
  match ← peek with
  | .keyword "print" => do
      skip
      let args ← readArguments fuel
      return .print args (← readOutput fuel)
  | .keyword "printf" => do
      skip
      let args ← readArguments fuel
      if args.isEmpty then refuse
      return .format args (← readOutput fuel)
  | .keyword "next" => do
      if !scope.inRule && !scope.inFunction then Reader.fail "improper use of next"
      skip
      return .next
  | .keyword "nextfile" => do
      if !scope.inRule && !scope.inFunction then Reader.fail "improper use of nextfile"
      skip
      return .nextFile
  | .keyword "exit" => do
      skip
      return .exit (← valueOf)
  | .keyword "return" => do
      if !scope.inFunction then Reader.fail "return outside function body"
      skip
      return .return (← valueOf)
  | .keyword "break" => do
      if !scope.inLoop then Reader.fail "break statement outside of loop"
      skip
      return .break
  | .keyword "continue" => do
      if !scope.inLoop then Reader.fail "continue statement outside of loop"
      skip
      return .continue
  | .keyword "delete" => do
      skip
      let name ← takeName
      if ← accept "[" then return .delete name (some (← readList fuel "]"))
      return .delete name none
  | _ => return .expression (← readExpr fuel false)

/-- The head of a loop over the keys of an array, if there is one. -/
def eachHead? : Reader (Option (Octets × Octets)) := do
  match ← get with
  | a :: b :: c :: d :: rest =>
      match a.token, b.token, c.token, d.token with
      | .name name, .keyword "in", .name table, .sign ")" => do
          set rest
          return some (name, table)
      | _, _, _, _ => return none
  | _ => return none

mutual

def readStatement (fuel : Nat) (scope : Scope) : Reader Statement := do
  match fuel with
  | 0 => refuse
  | fuel + 1 =>
    let body : Reader Statement := do
      skipNewlines
      readStatement fuel { scope with inLoop := true }
    match ← peek with
    | .sign "\x7b" => readBlock fuel scope
    | .sign ";" => do
        skip
        return .nothing
    | .keyword "if" => do
        skip
        expect "("
        let c ← readExpr fuel false
        expect ")"
        skipNewlines
        let yes ← readStatement fuel scope
        let behind ← get
        skipNewlines
        if ← isSign ";" then
          skip
          skipNewlines
        if ← isKeyword "else" then
          skip
          skipNewlines
          return .choice c yes (← readStatement fuel scope)
        set behind
        return .choice c yes .nothing
    | .keyword "while" => do
        skip
        expect "("
        let c ← readExpr fuel false
        expect ")"
        return .loop (some c) .nothing (← body)
    | .keyword "do" => do
        skip
        let b ← body
        skipEnds
        if !(← isKeyword "while") then refuse
        skip
        expect "("
        let c ← readExpr fuel false
        expect ")"
        endStatement
        return .again b c
    | .keyword "for" => do
        skip
        expect "("
        match ← eachHead? with
        | some (name, table) => return .each name table (← body)
        | none => do
            let first ← if ← isSign ";" then pure .nothing else readSimple fuel scope
            expect ";"
            skipNewlines
            let c ← if ← isSign ";" then pure none else do pure (some (← readExpr fuel false))
            expect ";"
            skipNewlines
            let after ← if ← isSign ")" then pure .nothing else readSimple fuel scope
            expect ")"
            return .block [first, .loop c after (← body)]
    | _ => do
        let s ← readSimple fuel scope
        endStatement
        return s

def readBlock (fuel : Nat) (scope : Scope) : Reader Statement := do
  match fuel with
  | 0 => refuse
  | fuel + 1 =>
    expect "\x7b"
    return .block (← readStatements fuel scope)

def readStatements (fuel : Nat) (scope : Scope) : Reader (List Statement) := do
  match fuel with
  | 0 => refuse
  | fuel + 1 =>
    skipEnds
    if ← accept "\x7d" then return []
    let s ← readStatement fuel scope
    return s :: (← readStatements fuel scope)

end

/-! ## Rules and functions -/

/-- Reads the names of parameters up to the closing parenthesis. -/
def readParameters (fuel : Nat) : Reader (List Octets) := do
  match fuel with
  | 0 => refuse
  | fuel + 1 =>
    if ← accept ")" then return []
    let name ← takeName
    if ← accept "," then skipNewlines
    else if !(← isSign ")") then refuse
    return name :: (← readParameters fuel)

def Program.empty : Program := ⟨[], [], [], []⟩

/-- Reads one rule or function into a program. -/
def readItem (fuel : Nat) (p : Program) : Reader Program := do
  let outside : Scope := ⟨false, false, false⟩
  match ← peek with
  | .keyword "BEGIN" => do
      skip
      return { p with beginnings := p.beginnings ++ [← readBlock fuel outside] }
  | .keyword "END" => do
      skip
      return { p with endings := p.endings ++ [← readBlock fuel outside] }
  | .keyword "function" => do
      skip
      let name ← takeName
      expect "("
      let parameters ← readParameters fuel
      skipNewlines
      let body ← readBlock fuel { outside with inFunction := true }
      return { p with functions := p.functions ++ [⟨name, parameters, body⟩] }
  | t => do
      let trigger ← if t == .sign "\x7b" then pure Trigger.always else do
        let a ← readExpr fuel false
        if ← accept "," then
          skipNewlines
          pure (.between a (← readExpr fuel false))
        else pure (.when a)
      let body ← if ← isSign "\x7b" then do
          pure (some (← readBlock fuel { outside with inRule := true }))
        else do
          match ← peek with
          | .sign ";" | .newline | .finish => pure none
          | _ => refuse
      return { p with rules := p.rules ++ [⟨trigger, body⟩] }

def readRules (fuel count : Nat) (p : Program) : Reader Program := do
  match count with
  | 0 => return p
  | count + 1 =>
    skipEnds
    match ← peek with
    | .finish => return p
    | .sign "\x7d" => do throw ⟨← line, "extra '\x7d'".toList⟩
    | _ => do readRules fuel count (← readItem fuel p)

def called (words : List Lexeme) : List Octets :=
  words.filterMap fun w => match w.token with
    | .callee s => some s
    | _ => none

def Program.read (s : Octets) : Except Fault Program := do
  let lastLine := (s.filter (· == '\n')).length + 1
  let words ← lexemes (s.length + 1) 1 .newline s
  let fuel := 12 * words.length + 40
  let (p, _) ← (readRules fuel (words.length + 1) .empty).run
    (words ++ [⟨.finish, lastLine, []⟩])
  match (called words).find? fun name => !p.functions.any fun f => f.name = name with
  | some name => throw ⟨lastLine + 1, "function ".toList ++ name ++ " never defined".toList⟩
  | none => return p

end Records

end Utility

end Conformance
