import Conformance.Computer.Shell.Expansion
import Conformance.FileTree.Walk

/-!
# Fields

The atoms of a word are split into fields where separators stand, and a field that is a pattern
stands for the names of the files that it matches.  In the extended dialect a word may first become
several words by the alternatives in its braces.
-/

namespace Conformance

namespace Shell

/-! ## Splitting -/

/-- What the field splitting has come past last. -/
inductive LastSeen where
  | start
  | blank
  | separator
  deriving DecidableEq, Repr

/-- The fields found so far, newest first, and the field that has begun, backwards. -/
structure Splitting where
  fields : List Marked
  current : Option Marked
  last : LastSeen

namespace Splitting

def close (s : Splitting) (last : LastSeen) : Splitting :=
  match s.current with
  | none => { s with last := if last = .start then .start else s.last }
  | some field => { fields := field.reverse :: s.fields, current := none, last }

def isBlankSeparator (c : Char) : Bool := c == ' ' || c == '\t' || c == '\n'

def push (separators : Octets) (s : Splitting) : Atom → Splitting
  | .present => { s with current := some (s.current.getD []) }
  | .border _ => s.close .start
  | .char c quoted separates =>
      if separates && separators.contains c then
        if isBlankSeparator c then s.close .blank
        else match s.current with
          | some _ => s.close .separator
          | none =>
              if s.last = .blank then { s with last := .separator }
              else { s with fields := [] :: s.fields, last := .separator }
      else { s with current := some ((c, quoted) :: s.current.getD []) }

end Splitting

def fieldsOf (separators : Octets) (atoms : List Atom) : List Marked :=
  ((atoms.foldl (Splitting.push separators) ⟨[], none, .start⟩).close .start).fields.reverse

/-! ## Alternatives in braces -/

abbrev BraceUnit := Char ⊕ Part

def unitsOf (word : Word) : List BraceUnit :=
  word.flatMap fun part =>
    match part with
    | .text s false => s.map Sum.inl
    | part => [.inr part]

/-- A name without braces around it goes on with the letters that have come to stand behind it. -/
def ofUnits (units : List BraceUnit) : Word :=
  units.foldr (fun u parts =>
    match u, parts with
    | .inl c, .text s false :: rest => .text (c :: s) false :: rest
    | .inr (.parameter name .whole false .bare quoted), .text s false :: rest =>
        let more := s.takeWhile isNameChar
        .parameter (name ++ more) .whole false .bare quoted ::
          .text (s.drop more.length) false :: rest
    | .inl c, parts => .text [c] false :: parts
    | .inr part, parts => part :: parts) []

def alternativesIn (depth : Nat) (current : List BraceUnit) (done : List (List BraceUnit)) :
    List BraceUnit → Option (List (List BraceUnit) × List BraceUnit)
  | [] => none
  | .inl '{' :: rest => alternativesIn (depth + 1) (.inl '{' :: current) done rest
  | .inl '}' :: rest =>
      match depth with
      | 0 => some ((current.reverse :: done).reverse, rest)
      | depth + 1 => alternativesIn depth (.inl '}' :: current) done rest
  | .inl ',' :: rest =>
      if depth = 0 then alternativesIn depth [] (current.reverse :: done) rest
      else alternativesIn depth (.inl ',' :: current) done rest
  | u :: rest => alternativesIn depth (u :: current) done rest

def signedNumber? (s : Octets) : Option Int :=
  let (negative, digits) := match s with
    | '-' :: digits => (true, digits)
    | '+' :: digits => (false, digits)
    | digits => (false, digits)
  if digits.isEmpty || !digits.all Char.isDigit then none
  else
    let n : Int := (digits.foldl (fun n d => 10 * n + (d.toNat - '0'.toNat)) 0 : Nat)
    some (if negative then -n else n)

def sequenceFrom (first last : Int) (step : Nat) : List Int :=
  let step := max step 1
  let count := (last - first).natAbs / step + 1
  (List.range count).map fun n : Nat =>
    if first ≤ last then first + (n * step : Nat) else first - (n * step : Nat)

def sequenceIn? (s : Octets) : Option (List Octets) :=
  let parts := splitDots [] s
  let step? : Option Nat := match parts with
    | [_, _] => some 1
    | [_, _, step] => (signedNumber? step).map Int.natAbs
    | _ => none
  match parts, step? with
  | first :: last :: _, some step =>
      match signedNumber? first, signedNumber? last with
      | some a, some b =>
          let padded (t : Octets) : Bool :=
            match t with
            | '-' :: '0' :: _ :: _ | '0' :: _ :: _ => true
            | _ => false
          let width := if padded first || padded last then max first.length last.length else 0
          some ((sequenceFrom a b step).map fun n =>
            let digits := Nat.toDigits 10 n.natAbs
            let sign : Octets := if n < 0 then ['-'] else []
            sign ++ List.replicate (width - sign.length - digits.length) '0' ++ digits)
      | none, none =>
          match first, last with
          | [a], [b] =>
              if a.isAlpha && b.isAlpha then
                some ((sequenceFrom a.toNat b.toNat step).map fun n => [Char.ofNat n.toNat])
              else none
          | _, _ => none
      | _, _ => none
  | _, _ => none
where
  splitDots (current : Octets) : Octets → List Octets
    | [] => [current.reverse]
    | '.' :: '.' :: rest => current.reverse :: splitDots [] rest
    | c :: rest => splitDots (c :: current) rest

/-- The words that the alternatives of a word make.  Fuel bounds how deep they nest. -/
def bracedUnits (fuel : Nat) (before : List BraceUnit) (units : List BraceUnit) : List (List BraceUnit) :=
  match fuel with
  | 0 => [before.reverse ++ units]
  | fuel + 1 =>
    match units with
    | [] => [before.reverse]
    | .inl '{' :: rest =>
        let joined (alternatives : List (List BraceUnit)) (after : List BraceUnit) :
            List (List BraceUnit) :=
          let behind := bracedUnits fuel [] after
          alternatives.flatMap fun a => behind.map fun s => before.reverse ++ a ++ s
        match alternativesIn 0 [] [] rest with
        | none => bracedUnits fuel (.inl '{' :: before) rest
        | some ([inner], after) =>
            let plain := inner.filterMap fun u => u.getLeft?
            match (if plain.length = inner.length then sequenceIn? plain else none) with
            | some texts => joined (texts.map fun s => s.map Sum.inl) after
            | none => bracedUnits fuel (.inl '{' :: before) rest
        | some (alternatives, after) => joined (alternatives.flatMap (bracedUnits fuel [])) after
    | u :: rest => bracedUnits fuel (u :: before) rest

def bracedWords (word : Word) : List Word :=
  let units := unitsOf word
  if units.any (fun u => match u with
      | .inl c => c == '{'
      | .inr _ => false) then
    (bracedUnits (units.length + 1) [] units).map ofUnits
  else [word]

/-! ## Names of files -/

/-- Where names of files are looked for, and how. -/
structure Surroundings where
  tree : FileTree
  directory : Location
  hidden : Bool
  vanishes : Bool
  fails : Bool
  dots : Bool
  deep : Bool
  ignored : List (List PatternItem)
  rules : Pattern.Rules
  wide : Bool

def segments (field : Marked) : List Marked :=
  field.foldr (fun c parts => match parts with
    | [] => [[c]]
    | part :: rest => if c.1 == '/' then [] :: part :: rest else (c :: part) :: rest) [[]]

def textOf (field : Marked) : Octets := field.map Prod.fst

/-- A hidden name is matched only by a pattern that begins with a dot. -/
def admits (s : Surroundings) (segment : Marked) (name : Octets) : Bool :=
  let pattern := Pattern.parse s.rules (if s.wide then widen segment else segment)
  (name.head? != some '.' || segment.head?.map Prod.fst == some '.' || s.hidden) &&
    Pattern.accepts s.rules pattern (if s.wide then Octets.toWide name else name)

def pathFor (s : Octets) : Path := ⟨Octets.toText s⟩

def namesAt (s : Surroundings) (start : Octets) : List Octets :=
  match s.tree.list s.directory (pathFor (if start.isEmpty then ['.'] else start)) with
  | .error _ => []
  | .ok names =>
      (if s.dots then [['.'], ['.', '.']] else []) ++ names.map Octets.ofString

def isOwnDirectory (s : Surroundings) (path : Octets) : Bool :=
  match s.tree.lookup s.directory (pathFor path) false with
  | .ok (_, e) => e.isDirectory
  | .error _ => false

/-- The directories below a path, and the path itself; fuel bounds their depth.  Links to directories
may count, but nothing below them. -/
def directoriesBelow (s : Surroundings) (links : Bool) (fuel : Nat) (start : Octets) :
    List Octets :=
  match fuel with
  | 0 => [start]
  | fuel + 1 =>
    let names := (namesAt { s with dots := false } start).filter fun name =>
      s.hidden || name.head? != some '.'
    start :: names.flatMap fun name =>
      let path := start ++ name
      if isOwnDirectory s path then directoriesBelow s links fuel (path ++ ['/'])
      else if links && s.tree.isDirectory s.directory (pathFor path) then [path ++ ['/']] else []

/-- The paths that begin with one of the given beginnings, which may be spelled out, and go on as the
segments say. -/
def pathsBelow (s : Surroundings) (spelled : Bool) (starts : List Octets) :
    List Marked → List Octets
  | [] => []
  | segment :: rest =>
      let everywhere := s.deep && segment = [('*', false), ('*', false)]
      if everywhere && !rest.isEmpty then
        pathsBelow s false (starts.flatMap (directoriesBelow s (rest = [[]]) 64)) rest
      else
        let found :=
          if everywhere then starts.flatMap fun start =>
            (directoriesBelow s false 64 start).flatMap fun dir =>
              (if dir != start || !spelled then [dir.dropLast] else if dir.isEmpty then [] else [dir]) ++
                ((namesAt { s with dots := false } dir).filter fun name =>
                  (s.hidden || name.head? != some '.') &&
                    !isOwnDirectory s (dir ++ name)).map (dir ++ ·)
          else if Pattern.isLiteral s.rules segment then starts.map (· ++ textOf segment)
          else starts.flatMap fun start =>
            ((namesAt s start).filter (admits s segment)).map (start ++ ·)
        match rest with
        | [] => found
        | _ => pathsBelow s (spelled && Pattern.isLiteral s.rules segment) (found.map (· ++ ['/']))
            rest

def pathsOf (s : Surroundings) (field : Marked) : List Octets :=
  if Pattern.isLiteral s.rules field then [textOf field]
  else
    let isIgnored (path : Octets) : Bool := s.ignored.any fun pattern =>
      Pattern.accepts s.rules pattern (if s.wide then Octets.toWide path else path)
    let found := (pathsBelow s true [[]] (segments field)).filter fun path =>
      s.tree.isPresent s.directory (pathFor path) && !isIgnored path
    if !found.isEmpty then found.mergeSort fun a b => decide (a ≤ b)
    else if s.vanishes then []
    else [textOf field]

/-! ## Words of a command -/

def expandFields (s : Surroundings) (word : Word) : Expand (List Octets) := do
  let v ← Expand.vars
  let words := if v.isExtended && v.has 'B' then bracedWords word else [word]
  let fields ← words.mapM fun word => do
    let atoms ← expandWord (if v.isExtended then withAssignedHome v word else word)
    return fieldsOf (← Expand.vars).separators atoms
  if v.has 'f' then return fields.flatten.map textOf
  let paths := fields.flatten.map fun field => (field, pathsOf s field)
  if s.fails then
    match paths.find? fun (field, paths) =>
        !Pattern.isLiteral s.rules field && (paths.isEmpty || paths = [textOf field]) &&
          !s.tree.isPresent s.directory (pathFor (textOf field)) with
    | some (field, _) => Expand.fail ("no match: ".toList ++ textOf field)
    | none => pure ()
  return paths.flatMap Prod.snd
where
  withAssignedHome (v : Variables) (word : Word) : Word :=
    match word with
    | .text s false :: rest =>
        let name := s.takeWhile (· != '=')
        let isName := name.head?.any (fun c => c.isAlpha || c == '_') &&
          name.all fun c => c.isAlphanum || c == '_'
        if isName && name.length < s.length then
          .text (s.take (name.length + 1)) false ::
            withHomes v (.text (s.drop (name.length + 1)) false :: rest)
        else word
    | word => word

def expandText (word : Word) : Expand Octets := do
  return Atom.text (← expandWord word)

end Shell

end Conformance
