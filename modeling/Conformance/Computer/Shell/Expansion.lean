import Conformance.Computer.Shell.Arithmetic
import Conformance.Computer.Shell.Pattern
import Conformance.Computer.Shell.Quoted
import Conformance.Computer.Text.Casing

/-!
# Expansion of words

A word expands to atoms: characters that remember whether they were quoted and whether they may
separate fields.  The expansion cannot run scripts.  Where it needs the output of one it stops and
names the script; it is then begun again with the outputs found so far.
-/

namespace Conformance

namespace Shell

inductive Atom where
  | char (c : Char) (quoted separates : Bool)
  /-- A field ends here.  Where fields do not matter, the character stands between them. -/
  | border (separator : Option Char)
  | present
  deriving DecidableEq, Repr

inductive Purpose where
  | text
  | pipe (scriptReads : Bool)
  deriving DecidableEq, Repr

/-- Why an expansion stops. -/
inductive Interruption where
  /-- The output of a script is missing, which begins with the parameters as they are by now. -/
  | needs (script : Command) (purpose : Purpose) (vars : Variables)
  | failed (message : Octets) (fatal : Bool)

/-- What a script inside a word has come to, with its status where the script has ended. -/
structure Output where
  text : Octets
  status : Option Nat

/-- The parameters as they stand, and the outputs of scripts that are not used yet. -/
structure Expander where
  vars : Variables
  outputs : List Output

abbrev Expand := StateT Expander (Except Interruption)

namespace Atom

def plain (s : Octets) : List Atom := s.map fun c => .char c false true

def literal (s : Octets) : List Atom := s.map fun c => .char c false false

def quote (s : Octets) : List Atom := .present :: s.map fun c => .char c true false

/-- A character that may separate fields, unless it is quoted. -/
def separating : Atom → Atom
  | char c quoted _ => .char c quoted (!quoted)
  | a => a

def ofText (quoted : Bool) (s : Octets) : List Atom := if quoted then quote s else plain s

/-- The characters of the atoms, where fields do not matter. -/
def text (atoms : List Atom) : Octets :=
  atoms.filterMap fun
    | char c _ _ => some c
    | border separator => separator
    | present => none

/-- The characters with their quoting, where fields do not matter. -/
def marked (atoms : List Atom) : Marked :=
  atoms.filterMap fun
    | char c quoted _ => some (c, quoted)
    | border separator => separator.map fun c => (c, false)
    | present => none

end Atom

namespace Variables

/-- The environment asks for characters of more than one byte. -/
def isWide (v : Variables) : Bool :=
  v.isExtended &&
    match (["LC_ALL", "LC_CTYPE", "LANG"].filterMap fun x => v.value? x.toList).find?
        (fun s => !s.isEmpty) with
    | some s =>
        let upper := s.map Char.toUpper
        (List.range upper.length).any fun n =>
          "UTF-8".toList.isPrefixOf (upper.drop n) || "UTF8".toList.isPrefixOf (upper.drop n)
    | none => false

def characters (v : Variables) (s : Octets) : List Char :=
  if v.isWide then Octets.toWide s else s

def ofCharacters (v : Variables) (s : List Char) : Octets :=
  if v.isWide then Octets.ofWide s else s

def patternRules (v : Variables) : Pattern.Rules :=
  ⟨v.isSet "extglob", .of (v.isSet "nocasematch") v.isWide⟩

end Variables

def widen (s : Marked) : Marked :=
  go s.length s
where
  go (fuel : Nat) (s : Marked) : Marked :=
    match fuel, s with
    | 0, _ | _, [] => []
    | fuel + 1, (c, quoted) :: rest =>
        match Octets.charAt? (s.map Prod.fst) with
        | some (d, n) => (d, quoted) :: go fuel (rest.drop (n - 1))
        | none => (Char.ofNat (Octets.strayBase + c.toNat), quoted) :: go fuel rest

namespace Expand

def vars : Expand Variables := do return (← get).vars

def fail {α : Type} (message : Octets) : Expand α := throw (.failed message false)

def failForGood {α : Type} (message : Octets) : Expand α := throw (.failed message true)

def output (script : Command) (purpose : Purpose) : Expand Octets := do
  let e ← get
  match e.outputs with
  | [] => throw (.needs script purpose e.vars)
  | ⟨s, status?⟩ :: rest => do
      -- In the extended dialect the status counts at once.
      let status := if e.vars.isExtended then status?.getD e.vars.status else e.vars.status
      set (⟨{ e.vars with status }, rest⟩ : Expander)
      return if purpose = .text then Octets.chomp s else s

def arithmetic (s : Octets) : Expand Int := do
  match Arithmetic.run (← vars) s with
  | .ok (n, vars) => do
      modify fun e => { e with vars }
      return n
  | .error e => throw (.failed (e.message (← vars).isExtended s) (match e with
      | .missing _ => true
      | _ => false))

/-- Sets a variable; a number is reckoned first where the variable is one. -/
def assign (x s : Octets) : Expand Unit := do
  let v ← vars
  if v.isReadOnly x then fail (x ++ ": is read only".toList)
  let integer := (v.find? (v.resolve x)).any Variable.integer
  let s ← if integer then do
      let n ← arithmetic s
      pure (toString n).toList
    else pure s
  modify fun e => { e with vars := e.vars.set x s }

end Expand

/-! ## Patterns in values -/

/-- The longest or shortest part of a text, from the front, that a pattern matches is dropped. -/
def dropFront (rules : Pattern.Rules) (longest : Bool) (items : List PatternItem)
    (s : List Char) : List Char :=
  let cuts := Pattern.beginnings rules items s
  match (if longest then cuts.head? else cuts.getLast?) with
  | some n => s.drop n
  | none => s

def dropBack (rules : Pattern.Rules) (longest : Bool) (items : List PatternItem)
    (s : List Char) : List Char :=
  let cuts := Pattern.endings rules items s
  match (if longest then cuts.head? else cuts.getLast?) with
  | some n => s.take (s.length - n)
  | none => s

def matchLength? (rules : Pattern.Rules) (items : List PatternItem) (s : List Char) :
    Option Nat :=
  (Pattern.beginnings rules items s).head?

def fillIn (new : Marked) (matched : List Char) : List Char :=
  new.flatMap fun (c, quoted) => if c == '&' && !quoted then matched else [c]

/-- Replaces the longest text at each place, or only the first one. -/
def replaceAll (rules : Pattern.Rules) (items : List PatternItem) (new : Marked) (every : Bool)
    (fuel : Nat) (s : List Char) : List Char :=
  match fuel, s with
  | 0, s => s
  | _, [] => []
  | fuel + 1, c :: rest =>
      match matchLength? rules items s with
      | some (n + 1) =>
          let after := s.drop (n + 1)
          fillIn new (s.take (n + 1)) ++
            (if every then replaceAll rules items new every fuel after else after)
      | _ => c :: replaceAll rules items new every fuel rest

def replaceMatches (rules : Pattern.Rules) (reach : Reach) (items : List PatternItem)
    (new : Marked) (s : List Char) : List Char :=
  match reach with
  | .first => replaceAll rules items new false (s.length + 1) s
  | .every => replaceAll rules items new true (s.length + 1) s
  | .front =>
      match matchLength? rules items s with
      | some n => fillIn new (s.take n) ++ s.drop n
      | none => s
  | .back =>
      match (Pattern.endings rules items s).head? with
      | some n => s.take (s.length - n) ++ fillIn new (s.drop (s.length - n))
      | none => s

def recaseText (rules : Pattern.Rules) (mark : Char) (all : Bool) (items : List PatternItem)
    (s : List Char) : List Char :=
  let change (c : Char) : Char :=
    if !(items.isEmpty || Pattern.accepts rules items [c]) then c
    else match mark with
      | '^' => Text.upperOf c
      | ',' => Text.lowerOf c
      | _ => if Text.upperOf c == c then Text.lowerOf c else Text.upperOf c
  match s with
  | [] => []
  | c :: rest => change c :: (if all then rest.map change else rest)

/-! ## Home directories -/

def homeOf? (v : Variables) (name : Octets) : Option Octets :=
  if name.isEmpty then v.value? "HOME".toList
  else if name = "root".toList then some "/root".toList
  else if !v.isExtended then none
  else if name = ['+'] then v.value? "PWD".toList
  else if name = ['-'] then v.value? "OLDPWD".toList
  else
    -- A number means one of the directories that have been set aside.
    let (sign, digits) := match name with
      | '+' :: digits => ('+', digits)
      | '-' :: digits => ('-', digits)
      | digits => ('+', digits)
    let n := Variables.leadingNumber digits
    let all := (v.value? "PWD".toList).getD [] :: v.aside
    if digits.isEmpty || !digits.all Char.isDigit || n ≥ all.length then none
    else all[if sign == '+' then n else all.length - 1 - n]?

def withHome (v : Variables) (word : Word) : Word :=
  match word with
  | .text ('~' :: rest) false :: parts =>
      let name := rest.takeWhile fun c => c != '/' && !(v.isExtended && c == ':')
      if name.length = rest.length && !parts.isEmpty then word
      else match homeOf? v name with
        | some home => .text home true :: .text (rest.drop name.length) false :: parts
        | none => word
  | _ => word

/-! ## Parameters -/

/-- What a parameter stands for: one text, or a list of them. -/
structure Found where
  texts : List Octets
  isList : Bool
  joined : Bool
  isSet : Bool

namespace Found

def ofText (s? : Option Octets) : Found := ⟨s?.toList, false, false, s?.isSome⟩

def ofList (joined : Bool) (l : List Octets) (isSet : Bool) : Found := ⟨l, true, joined, isSet⟩

def separator (v : Variables) (joined : Bool) : Option Char :=
  if joined || !v.isExtended then v.separators.head? else some ' '

def text (v : Variables) (f : Found) : Octets :=
  List.intercalate (separator v f.joined).toList f.texts

def atoms (v : Variables) (quoted : Bool) (f : Found) : List Atom :=
  if !f.isList then
    match f.texts with
    | [] => if quoted then [.present] else []
    | s :: _ => Atom.ofText quoted s
  else if quoted && f.joined then
    Atom.quote (List.intercalate (separator v true).toList f.texts)
  else ((f.texts.map (Atom.ofText quoted)).intersperse [.border (separator v f.joined)]).flatten

def map (f : Found) (g : Octets → Octets) : Found := { f with texts := f.texts.map g }

end Found

def expansionDepth : Nat := 10000

/-- The part of a list that begins at a place and has a length, or ends before a place that is
counted from the end. -/
def sliceOf {α : Type} (l : List α) (offset : Int) (length : Option Int) : Option (List α) :=
  let size : Int := l.length
  let first := if offset < 0 then offset + size else offset
  if first < 0 ∨ first > size then some []
  else
    let last := match length with
      | none => size
      | some n => if n < 0 then size + n else first + n
    if last < first then (if length.any (· < 0) then none else some [])
    else some ((l.drop first.toNat).take (last - first).toNat)

def nameAndIndex (s : Octets) : Octets × Index :=
  let name := s.takeWhile (· != '[')
  match (s.drop name.length).drop 1 with
  | [] => (name, .whole)
  | inner =>
      let index := inner.dropLast
      if index = ['@'] then (name, .every false)
      else if index = ['*'] then (name, .every true)
      else (name, .at [.text index false])

mutual

def expandPart (fuel : Nat) (part : Part) : Expand (List Atom) := do
  match fuel with
  | 0 => Expand.fail "expansion nests too deep".toList
  | fuel + 1 =>
    match part with
    | .text s quoted => return if quoted then Atom.quote s else Atom.literal s
    | .output script quoted => do return Atom.ofText quoted (← Expand.output script .text)
    | .passage script writes => do
        return Atom.literal (← Expand.output script (.pipe writes))
    | .arithmetic expression quoted => do
        let s := Atom.text (← expandParts fuel expression)
        let n ← Expand.arithmetic s
        return Atom.ofText quoted (toString n).toList
    | .items _ => return []
    | .parameter name index false operation quoted => do
        let atoms ← operate fuel name index operation quoted
        modify fun e => { e with vars := e.vars.drawnFor name }
        return atoms
    | .parameter name index true operation quoted => do
        let v ← Expand.vars
        let found ← findParameter fuel name index
        let referred? := ((v.find? name).filter Variable.refers).bind fun entry =>
          entry.value.bind Value.main?
        match referred?, index with
        | some target, .whole => return Atom.ofText quoted target
        | _, _ =>
        let (target, index) := nameAndIndex (Found.text v found)
        if target.isEmpty then Expand.fail (name ++ ": invalid indirect expansion".toList)
        else operate fuel target index operation quoted

def expandParts (fuel : Nat) (parts : List Part) : Expand (List Atom) := do
  match fuel with
  | 0 => Expand.fail "expansion nests too deep".toList
  | fuel + 1 =>
    let atoms ← parts.mapM (expandPart fuel)
    return atoms.flatten

def findParameter (fuel : Nat) (name : Octets) (index : Index) : Expand Found := do
  match fuel with
  | 0 => Expand.fail "expansion nests too deep".toList
  | fuel + 1 =>
    let v ← Expand.vars
    if name = ['@'] || name = ['*'] then
      return .ofList (name = ['*']) v.args (!v.isExtended || !v.args.isEmpty)
    else match index with
      | .whole => return .ofText (v.parameter? name)
      | .every joined =>
          let l := ((v.lookup? name).map Value.texts).getD []
          return .ofList joined l (!l.isEmpty)
      | .at word => do
          let key := Atom.text (← expandParts fuel word)
          match v.lookup? name with
          | some (.keyed items) => return .ofText (items.lookup key)
          | value? => do
              let items := match value? with
                | some (.indexed items) => items
                | some (.text s) => [(0, s)]
                | _ => []
              let n ← Expand.arithmetic key
              return .ofText ((Value.place? items n).bind fun n => items.lookup n)

def operate (fuel : Nat) (name : Octets) (index : Index) (operation : Operation)
    (quoted : Bool) : Expand (List Atom) := do
  match fuel with
  | 0 => Expand.fail "expansion nests too deep".toList
  | fuel + 1 =>
    let found ← findParameter fuel name index
    let v ← Expand.vars
    let rules := v.patternRules
    let present (f : Found) : Expand (List Atom) := return f.atoms v quoted
    -- A missing value is an error where the shell is asked to see to that.
    let checked : Expand Unit :=
      if found.isSet || found.isList || !v.has 'u' then return
      else if v.isExtended then
        Expand.failForGood ((if isVariable name then name else '$' :: name) ++
          ": unbound variable".toList)
      else Expand.failForGood (name ++ ": parameter not set".toList)
    let patternOf (parts : List Part) : Expand (List PatternItem) := do
      let s := Atom.marked (← expandParts fuel parts)
      return Pattern.parse rules (if v.isWide then widen s else s)
    let changed (f : List Char → List Char) : Expand (List Atom) :=
      present (found.map fun s => v.ofCharacters (f (v.characters s)))
    match operation with
    | .plain | .bare => do
        checked
        present found
    | .length => do
        checked
        if found.isList && v.isExtended then
          return Atom.ofText quoted (Octets.ofNat found.texts.length)
        else return Atom.ofText quoted (Octets.ofNat (v.characters (found.text v)).length)
    | .fallback f orEmpty word =>
        let usable := found.isSet && !(orEmpty && (found.text v).isEmpty)
        match f with
        | .default =>
            if usable then present found else return (← expandParts fuel word).map Atom.separating
        | .alternative =>
            if usable then return (← expandParts fuel word).map Atom.separating
            else return if quoted then [.present] else []
        | .assign =>
            if usable then present found
            else do
              let s := Atom.text (← expandParts fuel word)
              match index with
              | .at place => do
                  let key := Atom.text (← expandParts fuel place)
                  let key : Octets ⊕ Int ← match v.lookup? name with
                    | some (.keyed _) => pure (.inl key)
                    | _ => pure (.inr (← Expand.arithmetic key))
                  modify fun e => { e with vars := (e.vars.setItem name key s).getD e.vars }
              | _ =>
                  if isVariable name then Expand.assign name s
                  else Expand.fail ("$".toList ++ name ++ ": cannot assign in this way".toList)
              return Atom.ofText quoted s
        | .require =>
            if usable then present found
            else do
              let message := Atom.text (← expandParts fuel word)
              let standard := if !orEmpty then "parameter not set"
                else if v.isExtended then "parameter null or not set"
                else "parameter not set or null"
              Expand.failForGood (name ++ ": ".toList ++
                (if message.isEmpty then standard.toList else message))
    | .trim back longest pattern => do
        checked
        let items ← patternOf pattern
        changed (if back then dropBack rules longest items else dropFront rules longest items)
    | .replace reach pattern new => do
        checked
        let items ← patternOf pattern
        let new := Atom.marked (← expandParts fuel (withHome v new))
        let new := if v.isWide then widen new else new
        if items.isEmpty && (reach == .first || reach == .every) then present found
        else changed (replaceMatches rules reach items new)
    | .recase mark all pattern => do
        checked
        let items ← patternOf pattern
        changed (recaseText rules mark all items)
    | .slice offset length => do
        checked
        let first ← Expand.arithmetic (Atom.text (← expandParts fuel offset))
        let size ← match length with
          | some parts => do
              let n ← Expand.arithmetic (Atom.text (← expandParts fuel parts))
              pure (some n)
          | none => pure none
        let tooShort : Expand (List Atom) := do
          let written := Atom.text (← expandParts fuel (length.getD []))
          Expand.fail (written ++ ": substring expression < 0".toList)
        let numbered? : Option (List (Nat × Octets)) := match index, v.lookup? name with
          | .every _, some (.indexed items) => some items
          | _, _ => none
        match numbered? with
        | some items =>
            -- The numbers of the items count, not their places.
            let first := if first < 0 then first + Value.nextIndex items else first
            let behind := if first < 0 then [] else items.filter fun i => first ≤ i.1
            if size.any (· < 0) then tooShort
            else
              present { found with
              texts := (match size with
                | some n => behind.take n.toNat
                | none => behind).map Prod.snd }
        | none =>
        if found.isList then
          let l := if name = ['@'] || name = ['*'] then v.name :: found.texts else found.texts
          match sliceOf l first size with
          | some l => present { found with texts := l }
          | none => tooShort
        else match sliceOf (v.characters (found.text v)) first size with
          | some s => present { found with texts := [v.ofCharacters s] }
          | none => tooShort
    | .transform letter =>
        let entry := (v.find? (v.resolve name)).getD .blank
        let isWhole := match index with
          | .every _ => true
          | _ => false
        match letter with
        | 'Q' => present (found.map quoteForReading)
        | 'K' =>
            match (if isWhole then v.lookup? name else none) with
            | some value => present (.ofText (some (pairsText value)))
            | none => present (found.map quoteForReading)
        | 'k' =>
            match (if isWhole then v.lookup? name else none) with
            | some value =>
                present { found with texts := value.entries.flatMap fun (k, s) => [k, s] }
            | none => present (found.map quoteForReading)
        | 'U' => changed (List.map Text.upperOf)
        | 'L' => changed (List.map Text.lowerOf)
        | 'u' => changed (recaseText rules '^' false [])
        | 'E' => present (found.map (unescaped v.isWide))
        | 'P' => do
            let texts ← found.texts.mapM fun s => do
              let written := promptText v s
              match readText written with
              | some word => return Atom.text (← expandParts fuel word)
              | none => return written
            present { found with texts }
        | 'a' =>
            if found.isList then present (found.map fun _ => attributeLetters entry)
            else present (.ofText (some (attributeLetters entry)))
        | 'A' =>
            if name = ['@'] || name = ['*'] then
              present (.ofText (some ("set -- ".toList ++
                List.intercalate [' '] (found.texts.map quoteForReading))))
            else match isWhole, entry.value with
              | true, some (.text s) => present (.ofText (some (assignmentText name entry (some s))))
              | true, some _ =>
                  present (.ofText (some (declarationText (v.resolve name) entry).dropLast))
              | _, _ =>
                  if !isVariable name then present { found with texts := found.texts.map fun _ => [] }
                  else
                    let text := assignmentText (v.resolve name) entry found.texts.head?
                    present (if text.isEmpty then found else .ofText (some text))
        | _ => Expand.fail (name ++ ": bad substitution".toList)
    | .keys => do
        let keys := ((v.lookup? name).map fun value => value.entries.map Prod.fst).getD []
        let joined := match index with
          | .every joined => joined
          | _ => false
        present (.ofList joined keys true)
    | .names joined => do
        let names := (v.entries.filter fun (x, entry) =>
          entry.value.isSome && name.isPrefixOf x).map Prod.fst
        present (.ofList joined (names.mergeSort fun a b => decide (a ≤ b)) true)
    | .invalid =>
        Expand.fail (if v.isExtended then name ++ ": bad substitution".toList
          else "Bad substitution".toList)
where
  isVariable (name : Octets) : Bool := name.head?.any fun c => c.isAlpha || c == '_'
  readText (s : Octets) : Option Word :=
    match (readQuotedText (readEnclosed (12 * s.length + 24)) s).run (Layout.scanFor .extended s) with
    | .ok (word, _) => some word
    | .error _ => none

end

/-! ## Values with home directories -/

/-- The pieces of a text between tildes that stand behind a colon and before a slash, a colon or the
end; a piece tells whether such a tilde follows it. -/
def homeCuts (taken : Octets) : Octets → List (Octets × Bool)
  | [] => [(taken.reverse, false)]
  | ':' :: '~' :: rest =>
      match rest with
      | [] => [((':' :: taken).reverse, true)]
      | c :: more =>
          if c == '/' || c == ':' then ((':' :: taken).reverse, true) :: homeCuts [] (c :: more)
          else homeCuts ('~' :: ':' :: taken) (c :: more)
  | c :: rest => homeCuts (c :: taken) rest

/-- The home directory for a tilde after a colon as well, as in the value of an assignment. -/
def withHomes (v : Variables) (word : Word) : Word :=
  match v.value? "HOME".toList with
  | none => word
  | some home =>
      let first := match word with
        | .text ('~' :: rest) false :: parts =>
            -- A colon ends the name behind the first tilde.
            let name := rest.takeWhile fun c => c != '/' && c != ':'
            if name.length = rest.length && !parts.isEmpty then word
            else match homeOf? v name with
              | some home => .text home true :: .text (rest.drop name.length) false :: parts
              | none => word
        | word => word
      first.flatMap fun part =>
        match part with
        | .text s false => ((homeCuts [] s).map fun (piece, tilde) =>
            if tilde then [.text piece false, .text home true] else [.text piece false]).flatten
        | part => [part]

def expandRaw (word : Word) : Expand (List Atom) := expandParts expansionDepth word

def expandWord (word : Word) : Expand (List Atom) := do
  expandRaw (withHome (← Expand.vars) word)

def expandValue (word : Word) : Expand Octets := do
  return Atom.text (← expandRaw (withHomes (← Expand.vars) word))

def expandPattern (word : Word) : Expand (List PatternItem) := do
  let v ← Expand.vars
  let s := Atom.marked (← expandWord word)
  return Pattern.parse v.patternRules (if v.isWide then widen s else s)

end Shell

end Conformance
