import Conformance.Computer.Utility.Search.Layout

/-!
# Searching files

The program `grep` and its variants: lines of files that match a regular expression or hold a text.
-/

namespace Conformance

namespace Utility

namespace Search

/-- The files below a directory, by name; directories that are left out are not entered. -/
def filesBelow (t : FileTree) (dir : Location) (links : Bool) (leftOut : Octets → Bool)
    (fuel : Nat) (path : Octets) : List Octets :=
  match fuel with
  | 0 => []
  | fuel + 1 =>
    match t.list dir (pathOf path) with
    | .error _ => []
    | .ok names => names.flatMap fun name =>
        let below := (if path.getLast? == some '/' then path else path ++ ['/']) ++
          Octets.ofString name
        match t.lookup dir (pathOf below) links with
        | .ok (_, .directory) =>
            if leftOut (Octets.ofString name) then []
            else filesBelow t dir links leftOut fuel below
        | .ok (_, .file (.bytes _)) | .ok (_, .file (.program _)) => [below]
        | _ => []

def longOptions : List (String × Char × Arity) :=
  ([("extended-regexp", 'E', .flag), ("fixed-strings", 'F', .flag), ("basic-regexp", 'G', .flag),
    ("perl-regexp", 'P', .flag), ("regexp", 'e', .required), ("file", 'f', .required),
    ("ignore-case", 'i', .flag), ("no-ignore-case", '\x03', .flag), ("word-regexp", 'w', .flag),
    ("line-regexp", 'x', .flag), ("null-data", 'z', .flag), ("no-messages", 's', .flag),
    ("invert-match", 'v', .flag), ("max-count", 'm', .required), ("byte-offset", 'b', .flag),
    ("line-number", 'n', .flag), ("line-buffered", '\x04', .flag), ("with-filename", 'H', .flag),
    ("no-filename", 'h', .flag), ("label", '\x05', .required), ("only-matching", 'o', .flag),
    ("quiet", 'q', .flag), ("silent", 'q', .flag), ("binary-files", '\x06', .required),
    ("text", 'a', .flag), ("directories", 'd', .required), ("devices", 'D', .required),
    ("recursive", 'r', .flag), ("dereference-recursive", 'R', .flag), ("include", '\x07', .required),
    ("exclude", '\x08', .required), ("exclude-dir", '\x0e', .required),
    ("files-without-match", 'L', .flag), ("files-with-matches", 'l', .flag), ("count", 'c', .flag),
    ("initial-tab", 'T', .flag), ("null", 'Z', .flag), ("before-context", 'B', .required),
    ("after-context", 'A', .required), ("context", 'C', .required), ("color", '\x0f', .optional),
    ("colour", '\x0f', .optional), ("no-group-separator", '\x10', .flag),
    ("group-separator", '\x11', .required), ("binary", 'U', .flag),
    ("unix-byte-offsets", 'u', .flag)] : List (String × Char × Arity)) ++ commonOptions

def withContextNumber (args : List Octets) : List Octets :=
  args.map fun a =>
    match a with
    | '-' :: d :: digits =>
        if (d :: digits).all Char.isDigit then "-C".toList ++ d :: digits else a
    | a => a

def usage : Octets :=
  ("Usage: grep [OPTION]... PATTERNS [FILE]...\n" ++
    "Try 'grep --help' for more information.").toList

def fits (patterns : List Octets) (file : Octets) : Bool :=
  let base := (file.reverse.takeWhile (· != '/')).reverse
  patterns.any fun p =>
    Shell.Pattern.accepts .plain (Shell.Pattern.parse .plain (p.map fun ch => (ch, false))) base

/-- Whether a file is searched.  The last pattern counts that its name fits; if there is none, it
is searched unless the first pattern names those that are. -/
def isWanted (o : Options) (file : Octets) : Bool :=
  let patterns := o.given.filter fun (letter, _) => letter == '\x07' || letter == '\x08'
  match patterns.reverse.find? fun (_, p) => fits [p] file with
  | some (letter, _) => letter == '\x07'
  | none => !(patterns.head?.any fun (letter, _) => letter == '\x07')

structure Target where
  file : Octets
  inside : Bool

def targets (c : Context) (o : Options) (operands : List Octets) : List Target :=
  let recursive := o.hasAny "rR" || (o.value? 'd') = some "recurse".toList
  let skips := (o.value? 'd') = some "skip".toList
  let leftOut (dir : Octets) : Bool :=
    fits (o.values '\x0e') (dir.reverse.dropWhile (· == '/')).reverse
  let below (dir : Octets) : List Target :=
    ((filesBelow c.before c.directory (o.has 'R') leftOut 64 dir).filter (isWanted o)).map (⟨·, true⟩)
  if operands.isEmpty then
    if recursive then (below ['.']).map fun t => { t with file := t.file.drop 2 }
    else [⟨['-'], false⟩]
  else operands.flatMap fun file =>
    if file = ['-'] then [⟨file, false⟩]
    else if c.before.isDirectory c.directory (pathOf file) then
      if skips || leftOut file then [] else if recursive then below file else [⟨file, false⟩]
    else if isWanted o file then [⟨file, false⟩] else []

/-- What the search in one file comes to. -/
structure Report where
  prints : List Print
  found : Bool
  failed : Bool

/-- What is said about a whole file, by how many of its lines are selected; nothing if its lines are
shown. -/
def summary? (l : Layout) (o : Options) (named : Bool) (shown : Octets) (count : Nat) :
    Option (List Print) :=
  let ending : Char := if l.zeroed then '\x00' else '\n'
  let name : Print := .out (l.paint "35" shown ++ [ending])
  if o.has 'q' then some []
  else if o.has 'l' then some (if count > 0 then [name] else [])
  else if o.has 'L' then some (if count > 0 then [] else [name])
  else if o.has 'c' then
    some [.out ((if named then nameLabel l shown ':' else []) ++ Octets.ofNat count ++ ['\n'])]
  else none

/-- Searches one file.  `used` tells that lines have been shown before. -/
def reportFile (c : Context) (m : Matcher) (l : Layout) (o : Options) (label : Octets)
    (used named : Bool) (file : Octets) : Report × Bool :=
  let shown := if file = ['-'] then label else file
  match contentOf c file with
  | .error e =>
      let complaint := if o.has 's' then [] else [unreadable "grep" file e]
      let more := if e = .os .isDirectory then (summary? l o named shown 0).getD [] else []
      (⟨complaint ++ more, false, true⟩, used)
  | .ok s =>
      let width := if isInput file then 19 else (Octets.ofNat s.length).length + 1
      let p := searchText m l (if named then some shown else none) width used s
      let prints : List Print := match summary? l o named shown p.count with
        | some prints => prints
        | none =>
            let text := p.printed.reverse.flatten
            (if text.isEmpty then [] else [.out text]) ++
              (if p.garbled && p.count > 0 then
                [.err ("grep: ".toList ++ shown ++ ": binary file matches\n".toList)] else [])
      (⟨prints, p.count > 0, false⟩, p.used)

def styles : List (Char × Style) :=
  [('E', .regex .extended), ('F', .fixed), ('G', .regex .basic), ('P', .rich)]

/-- The way of reading patterns that options ask for, unless they ask for several. -/
def styleOf? (standard : Style) (o : Options) : Option Style :=
  let named := o.given.filterMap fun (letter, _) => styles.lookup letter
  let named := if standard = .regex .basic then named else standard :: named
  match named with
  | [] => some standard
  | s :: others => if others.all (· == s) then some s else none

def optionComplaint? (o : Options) : Option (Nat × Octets) :=
  let isNumber (v : Octets) : Bool := (readNat? v).isSome
  let one (letter : Char) (words : List String) (text : Octets → Octets) : Option Octets :=
    ((o.values letter).find? fun v => !words.any fun w => w.toList = v).map text
  let argument (name : String) (words : List String) (v : Octets) : Octets :=
    "invalid argument ".toList ++ quotedText v ++ " for ".toList ++ quotedText name.toList ++
      "\nValid arguments are:".toList ++
      words.flatMap (fun w => "\n  - ".toList ++ quotedText w.toList) ++ '\n' :: usage
  if (o.value? 'm').any fun s => (readInt? s).isNone then some (2, "invalid max count".toList)
  else match o.given.find? fun (letter, v) => "ABC".toList.contains letter && !isNumber v with
    | some (_, v) => some (2, v ++ ": invalid context length argument".toList)
    | none =>
        let actions := ["read", "recurse", "skip"]
        ((one '\x06' ["binary", "text", "without-match"] fun _ =>
          "unknown binary-files type".toList).map (2, ·)).or
          ((one 'd' actions (argument "--directories" actions)).map (1, ·))
where
  quotedText (s : Octets) : Octets := Octets.ofString "‘" ++ s ++ Octets.ofString "’"

def layoutOf (o : Options) : Layout :=
  let number (letter : Char) : Option Nat := (o.value? letter).bind readNat?
  let binary : Binary := match (o.lastOf "aI\x06"), o.value? '\x06' with
    | some 'a', _ => .asText
    | some 'I', _ => .skipped
    | some _, some v =>
        if v = "text".toList then .asText
        else if v = "without-match".toList then .skipped else .told
    | _, _ => .told
  { number := o.has 'n'
    offset := o.has 'b'
    only := o.has 'o'
    before := (number 'B').or (number 'C')
    after := (number 'A').or (number 'C')
    inverted := o.has 'v'
    most := if o.hasAny "lLq" then some 1 else number 'm'
    ending := if o.has 'z' then '\x00' else '\n'
    binary
    separator := match o.lastOf "\x10\x11" with
      | some '\x10' => none
      | some _ => o.value? '\x11'
      | none => some ['-', '-']
    colored := (o.value? '\x0f').any fun v => v = "always".toList || v = "yes".toList ||
      v = "force".toList
    tabbed := o.has 'T'
    zeroed := o.has 'Z' }

def patternsOf (c : Context) (o : Options) : Except Octets (List Octets) := do
  let texts ← o.given.filterMapM fun (letter, v) =>
    if letter == 'e' then pure (some (splitAt '\n' v))
    else if letter == 'f' then
      match contentOf c v with
      | .ok s =>
          -- A file without a line holds no pattern at all.
          pure (some (if s.isEmpty then []
            else splitAt '\n' (if s.getLast? == some '\n' then s.dropLast else s)))
      | .error e => throw (v ++ ": ".toList ++ errorText e)
    else pure none
  if o.hasAny "ef" then return texts.flatten else return splitAt '\n' (o.operands.headD [])

def searchAll (style : Style) (c : Context) : Answer × Bool :=
  let short := "EFGPe:f:iywxzsvm:bnHhoqad:D:rRLlcTZA:B:C:UuIV"
  match Options.read short longOptions (withContextNumber c.args) with
  | .error message =>
      (.failure c 2 ("grep: ".toList ++ message ++ ['\n'] ++ usage), true)
  | .ok o =>
    let fail (message : Octets) : Answer × Bool := (.failure c 2 ("grep: ".toList ++ message), true)
    if o.has versionLetter || o.has 'V' then (.ok c "grep (GNU grep) 3.8\n".toList, true)
    else if o.has helpLetter then
      (.ok c "Usage: grep [OPTION]... PATTERNS [FILE]...\n".toList, true)
    else match styleOf? style o, optionComplaint? o with
    | none, _ => fail "conflicting matchers specified".toList
    | _, some (status, message) => (.failure c status ("grep: ".toList ++ message), true)
    | some style, none =>
      if !o.hasAny "ef" && o.operands.isEmpty then (.failure c 2 usage, true)
      else
        let operands := if o.hasAny "ef" then o.operands else o.operands.drop 1
        let all := targets c o operands
        let files := all.map Target.file
        match need? c (o.values 'f' ++ files) with
        | some answer => (answer, true)
        | none =>
          let regexes : Except Octets (List Regex) := do
            (← patternsOf c o).mapM fun p =>
              match regexOf style (c.characters p) with
              | .ok r => pure r
              | .error message => throw message.toList
          match regexes with
          | .error message => fail message
          | .ok regexes =>
            let ignoreCase := (o.lastOf "iy\x03").any (· != '\x03')
            let m : Matcher :=
              { regexes
                rules := ⟨.of ignoreCase c.isWide, false⟩
                bounds := if o.has 'x' then .lines else if o.has 'w' then .words else .anywhere
                wide := c.isWide }
            let l := layoutOf o
            if l.most = some 0 then (.status c 1, true)
            else
              let isNamed (t : Target) : Bool := match o.lastOf "Hh" with
                | some 'H' => true
                | some _ => false
                | none => t.inside || operands.length > 1
              let label := (o.value? '\x05').getD "(standard input)".toList
              let own := (c.descriptors.lookup 1).bind id
              let isOutput (file : Octets) : Bool :=
                !o.hasAny "qlLc" && own.isSome &&
                  (match c.tree.lookup c.directory (pathOf file) true with
                    | .ok (loc, .file (.bytes _)) => some loc = own
                    | _ => false)
              let first := files.findIdx isInput
              let (reports, _) := all.zipIdx.foldl
                (fun ((reports, used) : List Report × Bool) (t, n) =>
                  if isOutput t.file then
                    (⟨[.err ("grep: ".toList ++ t.file ++
                      ": input file is also the output\n".toList)], false, true⟩ :: reports, used)
                  else
                    -- The input can be read only once.
                    let c := if isInput t.file && n > first then { c with input := [] } else c
                    let (r, used) := reportFile c m l o label used (isNamed t) t.file
                    (r :: reports, used)) ([], false)
              let reports := reports.reverse
              let found := reports.any Report.found
              let failed := reports.any Report.failed
              let status := if found && (o.has 'q' || !failed) then 0 else if failed then 2 else 1
              -- Quiet searches stop at the first file with a selected line.
              let shown := if o.has 'q' then reports.takeWhile fun r => !r.found else reports
              let isFull := files.length = 1 && l.most.any fun most =>
                match contentOf c (files.headD []) with
                | .ok s => (searchText m l none 0 false s).count ≥ most
                | .error _ => false
              let usesInput := (o.values 'f' ++ files).any isInput
              (.ends ⟨shown.flatMap Report.prints, status, c.tree⟩,
                isFull || (o.has 'q' && found) || !usesInput)

def run (style : Style) (c : Context) : Answer :=
  if c.inputEnded then (searchAll style c).1
  else
    let whole := (c.input.reverse.dropWhile (· != '\n')).reverse
    match searchAll style { c with inputEnded := true, input := whole } with
    | (.ends r, false) =>
        if c.input.length ≥ bufferSize then
          .shows (r.prints.flatMap fun p => if p.descriptor = 1 then p.text else [])
        else .more
    | (answer, _) => answer

end Search

end Utility

end Conformance
