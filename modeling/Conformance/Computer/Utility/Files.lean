import Conformance.Computer.Utility.Clock
import Conformance.Computer.Utility.Excerpt

/-!
# Files and directories

Programs that make, copy, move and remove entries of the file tree, and change what is known about
them.
-/

namespace Conformance

namespace Utility

namespace Files

/-- What becomes of a tree: what was printed, newest first, and whether something failed. -/
structure Work where
  tree : FileTree
  prints : List Print
  failed : Bool
  replies : List Octets
  repliesEnded : Bool
  waits : Bool

namespace Work

def start (c : Context) : Work :=
  let lines := splitAt '\n' c.input
  let replies := if c.inputEnded && lines.getLast? != some [] then lines else lines.dropLast
  ⟨c.workingTree, [], false, replies, c.inputEnded, false⟩

/-- Asks a question, and tells whether the reply is yes. -/
def ask (w : Work) (question : Octets) : Bool × Work :=
  let reply := w.replies.headD []
  (reply.head? == some 'y' || reply.head? == some 'Y',
    { w with
      prints := .err (question ++ "? ".toList) :: w.prints
      replies := w.replies.drop 1
      waits := w.waits || (w.replies.isEmpty && !w.repliesEnded) })

def say (w : Work) (s : Octets) : Work := { w with prints := .out (s ++ ['\n']) :: w.prints }

def fail (w : Work) (message : Octets) : Work :=
  { w with prints := .err (message ++ ['\n']) :: w.prints, failed := true }

def failAbout (w : Work) (program doing : String) (file : Octets) (e : IoError) : Work :=
  w.fail (about program doing file e)

def answer (w : Work) : Answer :=
  if w.waits then .more else .ends ⟨w.prints.reverse, if w.failed then 1 else 0, w.tree⟩

end Work

def forEach (c : Context) (operands : List Octets) (f : Work → Octets → Work) : Answer :=
  (operands.foldl f (.start c)).answer

def trimSlashes (s : Octets) : Octets :=
  match (s.reverse.dropWhile (· == '/')).reverse with
  | [] => if s.isEmpty then [] else ['/']
  | t => t

def lastName (file : Octets) : Octets :=
  ((trimSlashes file).reverse.takeWhile (· != '/')).reverse

def below (dir name : Octets) : Octets :=
  if dir.getLast? == some '/' then dir ++ name else dir ++ '/' :: name

/-- The place that a path names, be something there or not; links at the end are not followed. -/
def placeOf (c : Context) (t : FileTree) (file : Octets) : Except IoError FileTree.Spot :=
  t.locate c.directory (pathOf file) false

/-- Entries may be made and taken away in the directory of a place. -/
def mayChange (t : FileTree) (loc : Location) : Bool :=
  (t.stamp? loc.dropLast).any fun s => s.isWritable && s.isExecutable

/-- Puts a new entry at a free place. -/
def create (c : Context) (t : FileTree) (file : Octets) (mode : Nat) (e : Entry) :
    Except IoError FileTree := do
  let spot ← placeOf c t file
  match spot.found? with
  | some _ => throw (.os .fileExists)
  | none =>
      if !mayChange t spot.location then throw (.os .accessDenied)
      return t.insertWith mode spot.location e

/-- Takes away an entry that is no directory, or an empty one. -/
def unlink (t : FileTree) (loc : Location) : Except IoError FileTree := do
  if !mayChange t loc then throw (.os .accessDenied)
  return t.erase loc

/-! ## Touch -/

def touchOptions : List (String × Char × Arity) :=
  [("no-create", 'c', .flag), ("date", 'd', .required), ("reference", 'r', .required),
    ("no-dereference", 'h', .flag), ("time", '\x03', .required)]

def stampTime? (nowMicros : Nat) (s : Octets) : Option Nat :=
  let (digits, second) := match splitAt '.' s with
    | [digits, second] => (digits, (readNat? second).getD 0)
    | _ => (s, 0)
  let year := (Format.Day.ofNumber ((nowMicros / 1000000 / 86400 : Nat) : Int)).year
  let full : Octets := match digits.length with
    | 8 => (toString year).toList ++ digits
    | 10 => (if (readNat? (digits.take 2)).getD 0 < 69 then ['2', '0'] else ['1', '9']) ++ digits
    | _ => digits
  if full.length != 12 || !full.all Char.isDigit then none
  else
    let number (start count : Nat) : Nat := (readNat? ((full.drop start).take count)).getD 0
    let day : Format.Day := ⟨(number 0 4 : Int), number 4 2, number 6 2⟩
    if !Calendar.isDay day then none
    else
      let seconds := day.number * 86400 + (number 8 2 * 3600 + number 10 2 * 60 + second : Nat)
      some (seconds.toNat * 1000000)

def touch (c : Context) : Answer :=
  withOptions c "touch" 1 "acd:fhmr:t:" touchOptions fun o =>
    if o.operands.isEmpty then
      .failure c 1 ("touch: missing file operand".toList ++ tryHelp "touch")
    else
      let conflict : Octets := "touch: cannot specify times from more than one source".toList ++
        tryHelp "touch"
      let invalid (s : Octets) : Octets := "touch: invalid date format ".toList ++ quoted c s
      let dated (now : Nat) (s : Octets) : Except Octets Nat :=
        match Calendar.readDate? now s with
        | some (n, nanos) => .ok (n.toNat * 1000000 + nanos / 1000)
        | none => .error (invalid s)
      -- When the file was read last, and when it was changed.
      let times? : Except Octets (Nat × Nat) := do
        let stamps ← (o.values 't').mapM fun s =>
          match stampTime? c.now s with
          | some t => Except.ok t
          | none => .error (invalid s)
        match stamps.getLast?, o.value? 'r', o.value? 'd' with
        | some _, some _, _ | some _, _, some _ => throw conflict
        | some t, none, none => return (t, t)
        | none, some file, date? =>
            match c.tree.lookup c.directory (pathOf file) true with
            | .error e => throw (about "touch" "failed to get attributes of" file e)
            | .ok (loc, _) =>
                let stamp := (c.tree.stamp? loc).getD FileTree.topStamp
                match date? with
                | some s => return (← dated stamp.accessed s, ← dated stamp.time s)
                | none => return (stamp.accessed, stamp.time)
        | none, none, some s => do
            let t ← dated c.now s
            return (t, t)
        | none, none, none => return (c.workingTree.now, c.workingTree.now)
      let kind? := o.value? '\x03'
      let kinds := [("access", 'a'), ("atime", 'a'), ("use", 'a'), ("modify", 'm'), ("mtime", 'm')]
      let asksFor (letter : Char) : Bool :=
        o.has letter || (kind?.bind (choice? kinds)) == some letter
      let setsAccess := asksFor 'a' || !asksFor 'm'
      let setsTime := asksFor 'm' || !asksFor 'a'
      let set (times : Nat × Nat) (s : Stamp) : Stamp :=
        { s with
          accessed := if setsAccess then times.1 else s.accessed
          time := if setsTime then times.2 else s.time }
      if kind?.any fun k => (choice? kinds k).isNone then
        .failure c 1 ("touch: invalid argument ".toList ++ quoted c (kind?.getD []) ++
          " for ".toList ++ quoted c "--time".toList ++ tryHelp "touch")
      else match times? with
      | .error message => .failure c 1 message
      | .ok times => forEach c o.operands fun w file =>
          match w.tree.locate c.directory (pathOf file) (!o.has 'h') with
          | .ok ⟨loc, some _⟩ =>
              match w.tree.stamp? loc with
              | some stamp =>
                  { w with tree := w.tree.restamp stamp.number (set times) }
              | none => w
          | .ok ⟨loc, none⟩ =>
              if o.has 'c' then w
              else if o.has 'h' then
                w.fail ("touch: setting times of ".toList ++ quotedName file ++
                  ": No such file or directory".toList)
              else if !mayChange w.tree loc then
                w.failAbout "touch" "cannot touch" file (.os .accessDenied)
              else
                let t := w.tree.insertWith (c.masked 0o666) loc (.file (.bytes []))
                let t := match t.stamp? loc with
                  | some stamp => t.restamp stamp.number (set times)
                  | none => t
                { w with tree := t }
          | .error e =>
              if o.has 'c' && e = .os .noEntry then w
              else w.failAbout "touch" "cannot touch" file e

/-! ## Removing -/

def rmOptions : List (String × Char × Arity) :=
  [("force", 'f', .flag), ("recursive", 'r', .flag), ("dir", 'd', .flag), ("verbose", 'v', .flag),
    ("interactive", '\x03', .optional), ("one-file-system", '\x04', .flag),
    ("preserve-root", '\x05', .optional), ("no-preserve-root", '\x06', .flag)]

def kindName : Entry → Octets
  | .directory => "directory".toList
  | .link _ => "symbolic link".toList
  | .file (.bytes []) => "regular empty file".toList
  | .file .fifo => "fifo".toList
  | .file (.bytes _) | .file (.program _) => "regular file".toList
  | .file _ => "character special file".toList

/-- Removes an entry and all below it; fuel bounds how deep it nests. -/
def removeTree (c : Context) (verbose asks : Bool) (fuel : Nat) (w : Work) (loc : Location)
    (file : Octets) : Work :=
  match fuel with
  | 0 => w
  | fuel + 1 =>
    let ask (w : Work) (question : Octets) : Bool × Work :=
      if asks then w.ask ("rm: ".toList ++ question ++ ' ' :: quotedName file) else (true, w)
    match w.tree.find loc with
    | none => w
    | some .directory =>
        let names := w.tree.names loc
        if !(w.tree.mayRead loc) && !names.isEmpty then
          w.failAbout "rm" "cannot remove" file (.os .accessDenied)
        else
          let (enters, w) :=
            if names.isEmpty then (true, w) else ask w "descend into directory".toList
          if !enters then w
          else
            let w := names.foldl (fun w name =>
              removeTree c verbose asks fuel w (loc ++ [name])
                (below file (Octets.ofString name))) w
            let (goes, w) := ask w "remove directory".toList
            if !goes then w
            else if !(w.tree.names loc).isEmpty then
              if asks then w.failAbout "rm" "cannot remove" file (.os .notEmpty) else w
            else match unlink w.tree loc with
              | .ok t =>
                  let w := { w with tree := t }
                  if verbose then w.say ("removed directory ".toList ++ quotedName file) else w
              | .error e => w.failAbout "rm" "cannot remove" file e
    | some e =>
        let (goes, w) := ask w ("remove ".toList ++ kindName e)
        if !goes then w
        else match unlink w.tree loc with
          | .ok t =>
              let w := { w with tree := t }
              if verbose then w.say ("removed ".toList ++ quotedName file) else w
          | .error e => w.failAbout "rm" "cannot remove" file e

/-- When questions are asked. -/
inductive Asking where
  | never
  | once
  | always
  deriving DecidableEq, Repr

def Asking.ofOptions (o : Options) : Asking :=
  match (o.given.filter fun (letter, _) => "fiI\x03".toList.contains letter).getLast? with
  | some ('i', _) => .always
  | some ('I', _) => .once
  | some ('\x03', v) =>
      if v.isEmpty || v = "always".toList || v = "yes".toList then .always
      else if v = "once".toList then .once else .never
  | _ => .never

def removeOperand (c : Context) (o : Options) (asks : Bool) (w : Work) (file : Octets) : Work :=
  let force := o.lastOf "fiI" == some 'f'
  let fail (e : IoError) : Work := w.failAbout "rm" "cannot remove" file e
  match w.tree.lookup c.directory (pathOf file) false with
  | .error e => if force && (e = .os .noEntry || e = .os .notDirectory) then w else fail e
  | .ok (loc, .directory) =>
      if o.hasAny "rR" then
        match (pathOf file).parts.getLast? with
        | some "." | some ".." =>
            w.fail ("rm: refusing to remove '.' or '..' directory: skipping ".toList ++
              quotedName file)
        | none =>
            w.fail ("rm: it is dangerous to operate recursively on '/'\n" ++
              "rm: use --no-preserve-root to override this failsafe").toList
        | _ =>
            let byLink := match c.tree.lookup c.directory (pathOf (trimSlashes file)) false with
              | .ok (_, e) => e.isLink
              | .error _ => false
            if byLink then
              -- The directory behind a link is emptied, and the link stays.
              let w := (w.tree.names loc).foldl (fun w name =>
                removeTree c (o.has 'v') asks 64 w (loc ++ [name])
                  (below file (Octets.ofString name))) w
              w.failAbout "rm" "cannot remove" file (.os .notDirectory)
            else removeTree c (o.has 'v') asks 64 w loc file
      else if o.has 'd' then
        if (w.tree.names loc).isEmpty then removeTree c (o.has 'v') asks 64 w loc file
        else fail (.os .notEmpty)
      else fail (.os .isDirectory)
  | .ok (loc, _) => removeTree c (o.has 'v') asks 64 w loc file

def rm (c : Context) : Answer :=
  withOptions c "rm" 1 "dfirIRv" rmOptions fun o =>
    let asking := Asking.ofOptions o
    let count := o.operands.length
    let recursive := o.hasAny "rR"
    let asksOnce := asking = .once && (recursive || count > 3)
    if o.operands.isEmpty then (if o.has 'f' then .status c 0 else missingOperand c "rm")
    else
      let w := Work.start c
      let (goes, w) := if asksOnce then
          w.ask ("rm: remove ".toList ++ Octets.ofNat count ++
            (if count = 1 then " argument" else " arguments").toList ++
            (if recursive then " recursively" else "").toList)
        else (true, w)
      if !goes then w.answer
      else (o.operands.foldl (removeOperand c o (asking = .always)) w).answer

/-! ## Modes -/

def modeLetters (mode : Nat) : Octets :=
  let triple (shift special : Nat) (letter : Char) : Octets :=
    let bit (k : Nat) (c : Char) : Char := if mode.testBit (shift + k) then c else '-'
    let x := mode.testBit shift
    let last := if mode.testBit special then (if x then letter else letter.toUpper)
      else if x then 'x' else '-'
    [bit 2 'r', bit 1 'w', last]
  triple 6 11 's' ++ triple 3 10 's' ++ triple 0 9 't'

/-- The bits that letters for permissions stand for, in all three places. -/
def permissionBits (isDirectory : Bool) (before : Nat) (letters : Octets) : Nat :=
  letters.foldl (fun n c => n ||| (match c with
    | 'r' => 0o444
    | 'w' => 0o222
    | 'x' => 0o111
    | 'X' => if isDirectory || before &&& 0o111 != 0 then 0o111 else 0
    | 's' => 0o6000
    | 't' => 0o1000
    | _ => 0)) 0

def userBits (users : Octets) : Nat :=
  users.foldl (fun n c => n ||| (match c with
    | 'u' => 0o4700
    | 'g' => 0o2070
    | 'o' => 0o1007
    | _ => 0o7777)) 0

def applySign (isDirectory : Bool) (mask : Nat) (users : Octets) (sign : Char) (letters : Octets)
    (mode : Nat) : Nat :=
  let copied (shift : Nat) : Nat :=
    let x := mode / 8 ^ shift % 8
    x * 64 + x * 8 + x
  let bits := match letters with
    | ['u'] => copied 2
    | ['g'] => copied 1
    | ['o'] => copied 0
    | _ => permissionBits isDirectory mode letters
  let own := if users.isEmpty then 0o7777 &&& (0o7777 ^^^ mask) else userBits users
  let given := bits &&& own
  -- A directory keeps the bits for its group and user unless they are named.
  let kept := if isDirectory then 0o6000 &&& (0o7777 ^^^ bits) else 0
  match sign with
  | '+' => mode ||| given
  | '-' => mode &&& (0o7777 ^^^ given)
  | _ =>
      let touched := (if users.isEmpty then 0o7777 else userBits users) &&& (0o7777 ^^^ kept)
      (mode &&& (0o7777 ^^^ touched)) ||| given

def applySigns (isDirectory : Bool) (mask : Nat) (users : Octets) (fuel : Nat) (s : Octets)
    (mode : Nat) : Option Nat :=
  match fuel, s with
  | 0, _ => none
  | _, [] => some mode
  | fuel + 1, sign :: rest =>
      if sign != '+' && sign != '-' && sign != '=' then none
      else
        let letters := rest.takeWhile fun c => c != '+' && c != '-' && c != '='
        let isCopy := letters.length = 1 && letters.all fun c => "ugo".toList.contains c
        let isOctal := !letters.isEmpty && letters.all fun c => '0' ≤ c && c ≤ '7'
        if isOctal && users.isEmpty then
          let n := letters.foldl (fun n c => 8 * n + (c.toNat - '0'.toNat)) 0
          let mode := match sign with
            | '+' => mode ||| n
            | '-' => mode &&& (0o7777 ^^^ n)
            | _ => n
          applySigns isDirectory mask users fuel (rest.drop letters.length) mode
        else if !isCopy && !letters.all fun c => "rwxXst".toList.contains c then none
        else applySigns isDirectory mask users fuel (rest.drop letters.length)
          (applySign isDirectory mask users sign letters mode)

def changedMode? (isDirectory : Bool) (mask : Nat) (text : Octets) (mode : Nat) : Option Nat :=
  if !text.isEmpty && text.all fun c => '0' ≤ c && c ≤ '7' then
    let n := text.foldl (fun n c => 8 * n + (c.toNat - '0'.toNat)) 0
    if n > 0o7777 then none
    else if isDirectory && text.length < 5 then some (n ||| (mode &&& 0o6000))
    else some n
  else
    (splitAt ',' text).foldl (fun mode? clause =>
      mode?.bind fun mode =>
        let users := clause.takeWhile fun c => "ugoa".toList.contains c
        let signs := clause.drop users.length
        if signs.isEmpty then none
        else applySigns isDirectory mask users (signs.length + 1) signs mode) (some mode)

def octalMode (mode : Nat) : Octets :=
  let digits := Nat.toDigits 8 mode
  List.replicate (4 - digits.length) '0' ++ digits

def entriesBelow (t : FileTree) (fuel : Nat) (loc : Location) (file : Octets) :
    List (Location × Octets) :=
  match fuel with
  | 0 => []
  | fuel + 1 =>
      (loc, file) :: (match t.find loc with
        | some .directory => (t.names loc).flatMap fun name =>
            entriesBelow t fuel (loc ++ [name]) (below file (Octets.ofString name))
        | _ => [])

def chmodOptions : List (String × Char × Arity) :=
  [("changes", 'c', .flag), ("silent", 'f', .flag), ("quiet", 'f', .flag), ("verbose", 'v', .flag),
    ("recursive", 'R', .flag), ("reference", '\x03', .required)]

/-- An argument that takes permissions away is a mode, though it begins with a dash. -/
def isModeArgument (a : Octets) : Bool :=
  match a with
  | '-' :: c :: _ => "rwxXstugoa,+=01234567".toList.contains c
  | _ => false

def chmod (c : Context) : Answer :=
  let modes := c.args.filter isModeArgument
  let others := c.args.filter fun a => !isModeArgument a
  withOptions { c with args := others } "chmod" 1 "cfvR" chmodOptions fun o =>
    let reference? := o.value? '\x03'
    let (mode?, files) := match modes, reference? with
      | [], some _ => (if o.operands.isEmpty then none else some [], o.operands)
      | [], none => (o.operands.head?, o.operands.drop 1)
      | modes, _ => (some (joinWith [','] modes), o.operands)
    match mode? with
    | none => missingOperand c "chmod"
    | some mode =>
      let referenceMode? : Except Octets (Option Nat) := match reference? with
        | none => .ok none
        | some file =>
            match c.tree.lookup c.directory (pathOf file) true with
            | .ok (loc, _) => .ok ((c.tree.stamp? loc).map Stamp.mode)
            | .error e => .error (about "chmod" "failed to get attributes of" file e)
      match referenceMode? with
      | .error message => .failure c 1 message
      | .ok fixed? =>
        if files.isEmpty then
          .failure c 1 ("chmod: missing operand after ".toList ++ quoted c mode ++ tryHelp "chmod")
        else if fixed?.isNone && (changedMode? false 0 mode 0).isNone then
          .failure c 1 ("chmod: invalid mode: ".toList ++ quoted c mode ++ tryHelp "chmod")
        else forEach c files fun w file =>
          match w.tree.lookup c.directory (pathOf file) true with
          | .error e =>
              let dangling := match w.tree.lookup c.directory (pathOf file) false with
                | .ok (_, .link _) => true
                | _ => false
              if o.has 'f' then { w with failed := true }
              else if dangling && e = .os .noEntry then
                w.fail ("chmod: cannot operate on dangling symlink ".toList ++ quotedName file)
              else w.failAbout "chmod" "cannot access" file e
          | .ok (loc, _) =>
              let places := if o.has 'R' then entriesBelow w.tree 64 loc file else [(loc, file)]
              places.foldl (fun w (loc, file) =>
                match w.tree.node? loc with
                | none => w
                | some node =>
                    if node.entry.isLink then w
                    else
                      let before := node.stamp.mode
                      let isDirectory := node.entry.isDirectory
                      let after := match fixed? with
                        | some m => m
                        | none => (changedMode? isDirectory c.mask mode before).getD before
                      let t := w.tree.restamp node.stamp.number fun s => { s with mode := after }
                      let w := { w with tree := t }
                      let shown (m : Nat) : Octets :=
                        octalMode m ++ " (".toList ++ modeLetters m ++ [')']
                      if after != before && o.hasAny "vc" then
                        w.say ("mode of ".toList ++ quotedName file ++ " changed from ".toList ++
                          shown before ++ " to ".toList ++ shown after)
                      else if o.has 'v' then
                        w.say ("mode of ".toList ++ quotedName file ++ " retained as ".toList ++
                          shown before)
                      else w) w

/-! ## Directories -/

def modeOption? (c : Context) (o : Options) (standard : Nat) : Option Nat :=
  match o.value? 'm' with
  | none => some (c.masked standard)
  | some m => changedMode? false c.mask m standard

/-- Makes a directory with all on the way to it; the new ones come with the paths to them. -/
def makeParents (c : Context) (t : FileTree) (mode : Nat) (file : Octets) :
    Except (Octets × IoError) (FileTree × List Octets) :=
  let parts := (splitAt '/' file)
  let paths := ((List.range parts.length).map fun n => joinWith ['/'] (parts.take (n + 1))).filter
    fun p => !p.isEmpty
  paths.zipIdx.foldl (fun (r : Except (Octets × IoError) (FileTree × List Octets)) (path, n) => do
    let (t, made) ← r
    match t.lookup c.directory (pathOf path) true with
    | .ok (_, .directory) => return (t, made)
    | .ok _ => throw (path, .os (if n + 1 = paths.length then .fileExists else .notDirectory))
    | .error (.os ⟨2⟩) =>
        let own := if n + 1 = paths.length then mode else c.masked 0o777 ||| 0o300
        match create c t path own .directory with
        | .ok t => return (t, made ++ [path])
        | .error e => throw (path, e)
    | .error e => throw (path, e)) (.ok (t, []))

def mkdir (c : Context) : Answer :=
  let long : List (String × Char × Arity) :=
    [("mode", 'm', .required), ("parents", 'p', .flag), ("verbose", 'v', .flag),
      ("context", 'Z', .optional)]
  withOptions c "mkdir" 1 "m:pvZ" long fun o =>
    match modeOption? c o 0o777 with
    | none =>
        .failure c 1 ("mkdir: invalid mode ".toList ++ quoted c ((o.value? 'm').getD []))
    | some mode =>
      if o.operands.isEmpty then missingOperand c "mkdir"
      else forEach c o.operands fun w file =>
        let made (w : Work) (path : Octets) : Work :=
          if o.has 'v' then w.say ("mkdir: created directory ".toList ++ quotedName path) else w
        let fail (path : Octets) (e : IoError) : Work :=
          w.fail ("mkdir: cannot create directory ".toList ++ quoted c path ++ ": ".toList ++
            errorText e)
        if o.has 'p' then
          match makeParents c w.tree mode (trimSlashes file) with
          | .ok (t, paths) => paths.foldl made { w with tree := t }
          | .error (path, e) => fail path e
        else match create c w.tree (trimSlashes file) mode .directory with
          | .ok t => made { w with tree := t } file
          | .error e => fail file e

/-- The directories on the way to a path, the deepest first. -/
def parentsOf (file : Octets) : List Octets :=
  let parts := splitAt '/' (trimSlashes file)
  ((List.range parts.length).map fun n => joinWith ['/'] (parts.take (parts.length - n))).filter
    fun p => !p.isEmpty

def rmdir (c : Context) : Answer :=
  let long : List (String × Char × Arity) :=
    [("parents", 'p', .flag), ("verbose", 'v', .flag),
      ("ignore-fail-on-non-empty", '\x03', .flag)]
  withOptions c "rmdir" 1 "pv" long fun o =>
    if o.operands.isEmpty then missingOperand c "rmdir"
    else forEach c o.operands fun w file =>
      let paths := if o.has 'p' then parentsOf file else [file]
      (paths.foldl (fun ((w, goesOn) : Work × Bool) path =>
        if !goesOn then (w, false)
        else
          let w := if o.has 'v' then w.say ("rmdir: removing directory, ".toList ++ quotedName path)
            else w
          let result : Except IoError FileTree := do
            let byLink := match w.tree.lookup c.directory (pathOf (trimSlashes path)) false with
              | .ok (_, e) => e.isLink
              | .error _ => false
            if byLink then throw (.os .notDirectory)
            match ← w.tree.lookup c.directory (pathOf path) false with
            | (loc, .directory) =>
                match (pathOf path).parts.getLast? with
                | some "." => throw (.os .invalid)
                | some ".." => throw (.os .notEmpty)
                | _ =>
                    if !(w.tree.names loc).isEmpty then throw (.os .notEmpty)
                    unlink w.tree loc
            | _ => throw (.os .notDirectory)
          match result with
          | .ok t => ({ w with tree := t }, true)
          | .error e =>
              if o.has '\x03' && e = .os .notEmpty then (w, false)
              else (w.failAbout "rmdir" "failed to remove" path e, false)) (w, true)).1

def mkfifo (c : Context) : Answer :=
  withOptions c "mkfifo" 1 "m:" [("mode", 'm', .required)] fun o =>
    match modeOption? c o 0o666 with
    | none => .failure c 1 "mkfifo: invalid mode".toList
    | some mode =>
      if o.operands.isEmpty then missingOperand c "mkfifo"
      else forEach c o.operands fun w file =>
        match create c w.tree file mode (.file .fifo) with
        | .ok t => { w with tree := t }
        | .error e => w.failAbout "mkfifo" "cannot create fifo" file e

/-- A name made of a template by putting letters in the place of its last marks. -/
def filledTemplate (seed : Nat) (template : Octets) : Octets :=
  let letters := "abcdefghijklmnopqrstuvwxyzABCDEFGHIJKLMNOPQRSTUVWXYZ0123456789".toList
  let marks := (template.reverse.takeWhile (· == 'X')).length
  let stem := template.take (template.length - marks)
  stem ++ (List.range marks).map fun k =>
    letters.getD ((seed * 7919 + 31 * k + seed / (k + 1)) % letters.length) 'a'

def mktemp (c : Context) : Answer :=
  let long : List (String × Char × Arity) :=
    [("directory", 'd', .flag), ("quiet", 'q', .flag), ("dry-run", 'u', .flag),
      ("tmpdir", 'p', .optional), ("suffix", '\x03', .required)]
  withOptions c "mktemp" 1 "dp:qtuV" long fun o =>
    match o.operands with
    | _ :: _ :: _ => .failure c 1 ("mktemp: too many templates".toList ++ tryHelp "mktemp")
    | operands =>
      let chosen := (c.environment.lookup "TMPDIR".toList).filter fun s => !s.isEmpty
      let standardDir := chosen.getD "/tmp".toList
      let dir? : Option Octets :=
        if o.has 't' then some (chosen.getD ((o.value? 'p').getD standardDir))
        else match o.value? 'p' with
          | some [] => some standardDir
          | some dir => some dir
          | none => if operands.isEmpty then some standardDir else none
      let template := operands.headD "tmp.XXXXXXXXXX".toList
      let given? := o.value? '\x03'
      let stem := match given? with
        | some _ => template
        | none => ((template.reverse.dropWhile (· != 'X'))).reverse
      let suffix := given?.getD (template.drop stem.length)
      let template := stem ++ suffix
      if (stem.reverse.takeWhile (· == 'X')).length < 3 then
        .failure c 1 ("mktemp: too few X's in template ".toList ++ quoted c template)
      else if o.has 't' && template.contains '/' then
        .failure c 1 ("mktemp: invalid template, ".toList ++ quoted c template ++
          ", contains directory separator".toList)
      else
        let name (seed : Nat) : Octets :=
          let base := filledTemplate seed stem ++ suffix
          match dir? with
          | some dir => below dir base
          | none => base
        let seeds := (List.range 1000).map fun k => c.now + 1000003 * c.id + k
        let free := seeds.find? fun seed =>
          !c.tree.isPresent c.directory (pathOf (name seed))
        let file := name (free.getD 0)
        if o.has 'u' then .ok c (file ++ ['\n'])
        else
          let (mode, e) : Nat × Entry :=
            if o.has 'd' then (0o700, .directory) else (0o600, .file (.bytes []))
          match create c c.workingTree file mode e with
          | .ok t => .ends ⟨[.out (file ++ ['\n'])], 0, t⟩
          | .error e =>
              if o.has 'q' then .status c 1
              else
                let shown := match dir? with
                  | some dir => below dir template
                  | none => template
                .failure c 1 ((if o.has 'd' then "mktemp: failed to create directory via template "
                  else "mktemp: failed to create file via template ").toList ++ quoted c shown ++
                  ": ".toList ++ errorText e)

/-- How a size is meant: as it is, as a change of the old one, or as a bound or a unit for it. -/
inductive Sizing where
  | absolute
  | change
  | atMost
  | atLeast
  | roundDown
  | roundUp
  deriving DecidableEq, Repr

structure Resize where
  sizing : Sizing
  amount : Int
  deriving Repr

def Resize.applied (r : Resize) (old : Nat) : Nat :=
  let unit := r.amount.toNat
  match r.sizing with
  | .absolute => unit
  | .change => ((old : Int) + r.amount).toNat
  | .atMost => min old unit
  | .atLeast => max old unit
  | .roundDown => if unit = 0 then old else old / unit * unit
  | .roundUp => if unit = 0 then old else (old + unit - 1) / unit * unit

/-- Reads the sizes that are given.  The last number counts, and a sign holds for all numbers behind
it. -/
def readResizes (c : Context) (given : List Octets) : Except Octets (Option Resize) :=
  given.foldlM (fun (r? : Option Resize) v => do
    let text := v.dropWhile isSpace
    let before := (r?.map Resize.sizing).getD .absolute
    let (sizing, text) := match text with
      | '<' :: rest => (Sizing.atMost, rest)
      | '>' :: rest => (.atLeast, rest)
      | '/' :: rest => (.roundDown, rest)
      | '%' :: rest => (.roundUp, rest)
      | rest => (before, rest)
    let text := text.dropWhile isSpace
    let (negative, isSigned, digits) := match text with
      | '+' :: rest => (false, true, rest)
      | '-' :: rest => (true, true, rest)
      | rest => (false, false, rest)
    if isSigned && sizing != .absolute then
      throw ("multiple relative modifiers specified".toList ++ tryHelp "truncate")
    let isBlocks := digits.getLast? == some 'b'
    match (if isBlocks then none else Excerpt.readCount? digits) with
    | none => throw ("Invalid number: ".toList ++ quoted c text)
    | some n =>
        let sizing := if isSigned then .change else sizing
        if n = 0 && (sizing = .roundDown || sizing = .roundUp) then throw "division by zero".toList
        return some ⟨sizing, if negative then -(n : Int) else n⟩) none

def truncate (c : Context) : Answer :=
  let long : List (String × Char × Arity) :=
    [("no-create", 'c', .flag), ("size", 's', .required), ("reference", 'r', .required),
      ("io-blocks", 'o', .flag)]
  withOptions c "truncate" 1 "cor:s:" long fun o =>
    let fail (message : Octets) : Answer := .failure c 1 ("truncate: ".toList ++ message)
    let reference? : Except Octets (Option Nat) := match o.value? 'r' with
      | none => .ok none
      | some file =>
          match c.tree.lookup c.directory (pathOf file) true with
          | .ok _ => .ok (some (((contentOf c file).toOption.map List.length).getD 0))
          | .error e =>
              .error ("cannot stat ".toList ++ quotedName file ++ ": ".toList ++ errorText e)
    let size := quoted c "--size".toList
    let reference := quoted c "--reference".toList
    match readResizes c (o.values 's') with
    | .error message => fail message
    | .ok none =>
        if o.has 'r' then whole c o reference? none
        else fail ("you must specify either ".toList ++ size ++ " or ".toList ++ reference ++
          tryHelp "truncate")
    | .ok (some r) =>
        if o.has 'r' && r.sizing = .absolute then
          fail ("you must specify a relative ".toList ++ size ++ " with ".toList ++ reference ++
            tryHelp "truncate")
        else whole c o reference? (some r)
where
  whole (c : Context) (o : Options) (reference? : Except Octets (Option Nat))
      (resize? : Option Resize) : Answer :=
    if o.operands.isEmpty then
      .failure c 1 ("truncate: missing file operand".toList ++ tryHelp "truncate")
    else match reference? with
      | .error message => .failure c 1 ("truncate: ".toList ++ message)
      | .ok reference? =>
        forEach c o.operands fun w file =>
          let newSize (old : Nat) : Nat := match resize? with
            | some r =>
                let unit : Int := if o.has 'o' then 4096 else 1
                { r with amount := r.amount * unit }.applied (reference?.getD old)
            | none => reference?.getD old
          let cut (old : Bytes) : Bytes :=
            let size := newSize old.length
            old.take size ++ List.replicate (size - old.length) 0
          match w.tree.locate c.directory (pathOf file) true with
          | .ok ⟨loc, some (.file (.bytes old))⟩ =>
              match w.tree.stamp? loc with
              | some stamp =>
                  if !stamp.isWritable then
                    w.fail ("truncate: cannot open ".toList ++ quotedName file ++
                      " for writing: Permission denied".toList)
                  else { w with tree := w.tree.rewrite stamp.number (.bytes (cut old)) }
              | none => w
          | .ok ⟨loc, none⟩ =>
              if o.has 'c' then w
              else { w with tree :=
                w.tree.insertWith (c.masked 0o666) loc (.file (.bytes (cut []))) }
          | .ok ⟨_, some .directory⟩ =>
              w.fail ("truncate: cannot open ".toList ++ quotedName file ++
                " for writing: Is a directory".toList)
          | .ok _ => w
          | .error e =>
              if o.has 'c' && e = .os .noEntry then w
              else w.fail ("truncate: cannot open ".toList ++ quotedName file ++
                " for writing: ".toList ++ errorText e)

end Files

end Utility

end Conformance
