import Conformance.Computer.Utility.Transfer.Request
import Conformance.Computer.Utility.Transfer.Sameness

/-!
# Copies

The program `cp`.  Each source is looked at together with what stands at its target: what stands
there may stay, be kept under another name, be taken away first, or be written over.
-/

namespace Conformance

namespace Utility

namespace Transfer

open Files

structure Manner where
  recursive : Bool
  keepsNamed : Bool
  keepsFound : Bool
  keepsMode : Bool
  keepsTime : Bool
  keepsNames : Bool
  /-- What stands in the way of a file that cannot be opened goes away. -/
  force : Bool
  verbose : Bool
  neverReplaces : Bool
  asks : Bool
  onlyNewer : Bool
  hardLinks : Bool
  symbolicLinks : Bool
  removesFirst : Bool
  withoutData : Bool
  /-- Of pipes and devices the content is copied, also far below. -/
  readsSpecial : Bool
  keeping : Keeping
  /-- Several sources go into a directory, and what has come there is not to be written over. -/
  several : Bool

structure Copying where
  work : Work
  named : List Location
  made : List Location
  copies : List (Nat × Location)
  first? : Option Location
  inItself : Bool

namespace Copying

def start (c : Context) : Copying := ⟨.start c, [], [], [], none, false⟩

def tree (s : Copying) : FileTree := s.work.tree

def say (s : Copying) (text : Octets) : Copying := { s with work := s.work.say text }

def fail (s : Copying) (message : Octets) : Copying := { s with work := s.work.fail message }

def failAbout (s : Copying) (doing : String) (file : Octets) (e : IoError) : Copying :=
  { s with work := s.work.failAbout "cp" doing file e }

def withTree (s : Copying) (t : FileTree) : Copying := { s with work := { s.work with tree := t } }

def warn (s : Copying) (message : Octets) : Copying :=
  { s with work := { s.work with prints := .err (message ++ ['\n']) :: s.work.prints } }

end Copying

/-- What a copy of a file holds: of a pipe what comes out of it; a device gives its data, of which
there is none. -/
def copiedContent (c : Context) (source : Octets) : Content → Content
  | .fifo => .bytes (((contentOf c source).toOption.map Octets.toBytes).getD [])
  | .null | .zeros | .full => .bytes []
  | content => content

def needForPipes? (c : Context) (sources : List Octets) : Option Answer :=
  need? c (sources.filter fun file =>
    match c.before.lookup c.directory (pathOf file) true with
    | .ok (_, .file .fifo) => true
    | _ => false)

def Manner.newMode (m : Manner) (c : Context) (kind : Nat) (src : Node) : Nat :=
  if m.keepsMode then src.stamp.mode else c.masked (src.stamp.mode &&& kind)

def Manner.settle (m : Manner) (src : Node) (t : FileTree) (loc : Location) : FileTree :=
  match t.stamp? loc with
  | some s => t.restamp s.number fun s =>
      { s with
        time := if m.keepsTime then src.stamp.time else s.time
        accessed := if m.keepsTime then src.stamp.accessed else s.accessed
        mode := if m.keepsMode then src.stamp.mode else s.mode }
  | none => t

def Manner.approach (m : Manner) (keepsLink : Bool) : Approach :=
  ⟨false, m.hardLinks, m.symbolicLinks, m.removesFirst, m.keeping.isOn, keepsLink⟩

def Copying.note (s : Copying) (m : Manner) (isNamed : Bool) (loc : Location) : Copying :=
  if isNamed && m.several then { s with made := loc :: s.made } else s

def copyNew (c : Context) (m : Manner) (src : Node) (content : Content) (target : Octets)
    (s : Copying) : Copying :=
  let fail (e : IoError) : Copying := s.failAbout "cannot create regular file" target e
  if target.getLast? == some '/' then fail (.os .notDirectory)
  else match placeOf c s.tree target with
  | .error e => fail e
  | .ok ⟨_, some _⟩ =>
      s.fail ("cp: not writing through dangling symlink ".toList ++ quotedName target)
  | .ok ⟨loc, none⟩ =>
      if !mayChange s.tree loc then fail (.os .accessDenied)
      else
        let t := s.tree.insertWith (m.newMode c 0o777 src) loc (.file content)
        s.withTree (m.settle src t loc)

def copyOver (c : Context) (m : Manner) (src dst : Node) (content : Content) (target : Octets)
    (s : Copying) : Copying :=
  match dst.entry with
  | .file (.bytes _) | .file (.program _) =>
      if dst.stamp.isWritable then
        let t := if m.withoutData then s.tree else s.tree.rewrite dst.stamp.number content
        s.withTree (m.settle src t dst.location)
      else if m.force && mayChange s.tree dst.location then
        let s := s.withTree (s.tree.erase dst.location)
        let s := if m.verbose then s.say ("removed ".toList ++ quotedName target) else s
        copyNew c m src content target s
      else s.failAbout "cannot create regular file" target (.os .accessDenied)
  | .file .full =>
      if content.data.isEmpty then s
      else s.fail ("cp: error writing ".toList ++ quotedName target ++
        ": No space left on device".toList)
  | .file .fifo =>
      match deviceDescriptor? target with
      | some n =>
          { s with work := { s.work with
            prints := ⟨n, Octets.ofBytes content.data⟩ :: s.work.prints } }
      | none => s
  | _ => s

def copyLinks (c : Context) (m : Manner) (src : Node) (source target : Octets) (s : Copying) :
    Copying :=
  match placeOf c s.tree target with
  | .error e => s.failAbout "cannot create link" target e
  | .ok spot =>
      let replaces := m.force || (m.hardLinks && m.asks)
      let isHere := match (pathOf target).parts.dropLast with
        | [] => !(pathOf target).isAbsolute
        | parts => parts.all (· == ".")
      if m.symbolicLinks && source.head? != some '/' && !isHere then
        s.fail ("cp: ".toList ++ target ++
          ": can make relative symbolic links only in current directory".toList)
      else if spot.found?.isSome && !replaces then
        s.fail ((if m.symbolicLinks then "cp: cannot create symbolic link "
          else "cp: cannot create hard link ").toList ++ quotedName target ++ " to ".toList ++
          quotedName source ++ ": File exists".toList)
      else if !mayChange s.tree spot.location then
        s.failAbout "cannot create link" target (.os .accessDenied)
      else
        let t := s.tree.erase spot.location
        s.withTree (if m.symbolicLinks then t.insert spot.location (.link (pathOf source))
          else t.share src.location spot.location)

/-- What becomes of what stands at a target. -/
inductive Clearance where
  | refused (s : Copying)
  | over (s : Copying) (dst : Node)
  /-- The copy is made where nothing stands any more; the name of a kept entry comes with it. -/
  | free (s : Copying) (kept? : Option Octets)

def clear (c : Context) (m : Manner) (isNamed keepsLink : Bool) (source target : Octets)
    (src dst : Node) (s : Copying) : Clearance :=
  let isDirectory := src.entry.isDirectory
  let relation := sameness c s.tree (m.approach keepsLink) source target src dst
  if relation = .clash then
    .refused (s.fail ("cp: ".toList ++ quotedName source ++ " and ".toList ++ quotedName target ++
      " are the same file".toList))
  else if !isDirectory && (m.neverReplaces || (m.onlyNewer && dst.stamp.time ≥ src.stamp.time)) then
    .refused s
  else
    let (goes, work) := if !isDirectory && m.asks then
        s.work.ask ("cp: overwrite ".toList ++ quotedName target)
      else (true, s.work)
    let s := { s with work }
    if !goes || relation = .done then .refused s
    else if !isDirectory && dst.entry.isDirectory then
      .refused (s.fail ("cp: cannot overwrite directory ".toList ++ quotedName target ++
        " with non-directory".toList))
    else if !isDirectory && m.keeping.backup != .numbered && s.made.contains dst.location then
      .refused (s.fail ("cp: will not overwrite just-created ".toList ++ quotedName target ++
        " with ".toList ++ quotedName source))
    else if isDirectory && !dst.entry.isDirectory then
      .refused (s.fail ("cp: cannot overwrite non-directory ".toList ++ quotedName target ++
        " with directory ".toList ++ quotedName source))
    else if dst.entry.isDirectory then .over s dst
    else if m.keeping.isOn then
      if m.keeping.destroys src.location dst.location then
        .refused (s.fail ("cp: backing up ".toList ++ quotedName target ++
          " might destroy source;  ".toList ++ quotedName source ++ " not copied".toList))
      else match m.keeping.keep c s.tree dst.location target with
        | .ok (t, kept) => .free (s.withTree t) (some kept)
        | .error e => .refused (s.failAbout "cannot backup" target e)
    else if m.removesFirst || (!m.withoutData && ((m.keepsNames && hasNames s.tree dst) ||
        (keepsLink && !src.entry.isRegular && !isSpecial src.entry isNamed))) then
      if !mayChange s.tree dst.location then
        .refused (s.failAbout "cannot remove" target (.os .accessDenied))
      else
        let s := s.withTree (s.tree.erase dst.location)
        .free (if m.verbose then s.say ("removed ".toList ++ quotedName target) else s) none
    else .over s dst
where
  isSpecial (e : Entry) (_ : Bool) : Bool :=
    match e with
    | .file _ => !m.recursive || m.readsSpecial
    | _ => false

def copyDirectory (c : Context) (m : Manner) (copyBelow : Octets → Octets → Copying → Copying)
    (source target : Octets) (src : Node) (dst? : Option Node) (place : Location)
    (arrow : Copying → Copying) (s : Copying) : Copying :=
  let made : Except IoError Copying := match dst? with
    | some _ => .ok s
    | none => do
        let t ← create c s.tree (trimSlashes target) (m.newMode c 0o777 src ||| 0o700) .directory
        return arrow { s.withTree t with first? := s.first?.or (some place) }
  match made with
  | .error e => s.failAbout "cannot create directory" target e
  | .ok s =>
      let s := if s.tree.mayRead src.location then
          -- The directory that was made is found behind all that was there before.
          let leads (name : String) : Bool :=
            s.first?.any fun first => (src.location ++ [name]).isPrefixOf first
          let names := s.tree.names src.location
          let names := names.filter (fun n => !leads n) ++ names.filter leads
          names.foldl (fun s name =>
            let name := Octets.ofString name
            if s.inItself then s
            else copyBelow (below source name) (below target name) s) s
        else s.failAbout "cannot access" source (.os .accessDenied)
      if dst?.isSome then s
      else
        let t := match s.tree.stamp? place with
          | some stamp => s.tree.restamp stamp.number fun stamp =>
              { stamp with mode := m.newMode c 0o777 src }
          | none => s.tree
        s.withTree (m.settle src t place)

/-- Makes a copy against which nothing stands any more. -/
def copyTo (c : Context) (m : Manner) (copyBelow : Octets → Octets → Copying → Copying)
    (isNamed : Bool) (top : Octets × Octets) (source target : Octets) (src : Node)
    (dst? : Option Node) (kept? : Option Octets) (s : Copying) : Copying :=
  let arrow (s : Copying) : Copying :=
    if m.verbose then
      s.say (quotedName source ++ " -> ".toList ++ quotedName target ++ keptText kept?)
    else s
  let place := match dst?, placeOf c s.tree (trimSlashes target) with
    | some dst, _ => dst.location
    | none, .ok spot => spot.location
    | none, .error _ => []
  match src.entry with
  | .directory =>
      let into := if isNamed then none else if s.first? = some src.location then s.first? else none
      let known? := if isNamed then s.copies.lookup src.stamp.number else none
      if into.isSome then
        { s.fail ("cp: cannot copy a directory, ".toList ++ quotedName top.1 ++
          ", into itself, ".toList ++ quotedName top.2) with inItself := true }
      else if known? = some place && dst?.isSome then
        s.warn ("cp: warning: source directory ".toList ++ quotedName top.1 ++
          " specified more than once".toList)
      else copyDirectory c m copyBelow source target src dst? place arrow
        { s with copies := (src.stamp.number, place) :: s.copies }
  | entry =>
      let s := arrow s
      let known? := if m.keepsNames && hasNames s.tree src then s.copies.lookup src.stamp.number
        else none
      match known? with
      | some earlier => s.withTree ((s.tree.erase place).share earlier place)
      | none =>
        let s := if m.keepsNames then { s with copies := (src.stamp.number, place) :: s.copies }
          else s
        let s := if m.hardLinks || m.symbolicLinks then copyLinks c m src source target s
          else match entry with
            | .link _ =>
                if !mayChange s.tree place then
                  s.failAbout "cannot create symbolic link" target (.os .accessDenied)
                else s.withTree ((s.tree.erase place).insert place entry)
            | .file content =>
                if !s.tree.mayRead src.location then
                  s.fail ("cp: cannot open ".toList ++ quotedName source ++
                    " for reading: Permission denied".toList)
                else
                  let content := if m.recursive && !m.readsSpecial && content == .fifo then .fifo
                    else if m.withoutData then .bytes []
                    else copiedContent c source content
                  match dst? with
                  | some dst => copyOver c m src dst content target s
                  | none => copyNew c m src content target s
            | .directory => s
        s.note m isNamed place

/-- Copies what stands at a place; fuel bounds how deep it nests. -/
def copyEntry (c : Context) (m : Manner) (fuel : Nat) (isNamed : Bool) (top : Octets × Octets)
    (source target : Octets) (s : Copying) : Copying :=
  let keepsLink := if isNamed then m.keepsNamed else m.keepsFound
  match fuel with
  | 0 => s
  | fuel + 1 =>
    match nodeAt c s.tree source (!keepsLink) with
    | .error e => s.failAbout "cannot stat" source e
    | .ok src =>
      let place := match placeOf c s.tree source with
        | .ok spot => spot.location
        | .error _ => src.location
      if src.entry.isDirectory && !m.recursive then
        s.fail ("cp: -r not specified; omitting directory ".toList ++ quotedName source)
      else if isNamed && m.several && !src.entry.isDirectory && !m.keeping.isOn &&
          s.named.contains place then
        s.warn ("cp: warning: source file ".toList ++ quotedName source ++
          " specified more than once".toList)
      else
      let s := if isNamed then { s with named := place :: s.named } else s
      let seesLink := (!src.entry.isRegular && (m.recursive && !m.readsSpecial ||
          src.entry.isDirectory || src.entry.isLink)) ||
        m.symbolicLinks || m.hardLinks || m.keeping.isOn || m.removesFirst
      let clearance : Clearance := match nodeAt c s.tree target (!seesLink) with
        | .error e =>
            if e = .os .noEntry then .free s none
            else .refused (s.failAbout "cannot stat" target e)
        | .ok dst => clear c m isNamed keepsLink source target src dst s
      let go := copyTo c m (copyEntry c m fuel false top) isNamed top source target
      match clearance with
      | .refused s => s
      | .over s dst => go src (some dst) none s
      | .free s kept? => go src none kept? s

/-! ## The program -/

def cpOptions : List (String × Char × Arity) :=
  [("archive", 'a', .flag), ("backup", 'b', .optional), ("force", 'f', .flag),
    ("interactive", 'i', .flag), ("link", 'l', .flag), ("dereference", 'L', .flag),
    ("no-clobber", 'n', .flag), ("no-dereference", 'P', .flag), ("preserve", 'p', .optional),
    ("recursive", 'r', .flag), ("symbolic-link", 's', .flag), ("suffix", 'S', .required),
    ("target-directory", 't', .required), ("no-target-directory", 'T', .flag),
    ("update", 'u', .flag), ("verbose", 'v', .flag), ("parents", '\x03', .flag),
    ("remove-destination", '\x04', .flag), ("no-preserve", '\x05', .required),
    ("reflink", '\x06', .optional), ("sparse", '\x07', .required),
    ("strip-trailing-slashes", '\x08', .flag), ("attributes-only", '\x0b', .flag),
    ("copy-contents", '\x0c', .flag), ("one-file-system", 'x', .flag)]

/-- What a copy keeps of its source besides the content. -/
structure Likeness where
  mode : Bool
  time : Bool
  names : Bool

namespace Likeness

def set (k : Likeness) (value : Bool) (word : Octets) : Option Likeness :=
  let words : List (String × Nat) :=
    [("mode", 0), ("timestamps", 1), ("ownership", 2), ("links", 3), ("context", 4), ("xattr", 5),
      ("all", 6)]
  (choice? words word).map fun
    | 0 => { k with mode := value }
    | 1 => { k with time := value }
    | 3 => { k with names := value }
    | 6 => ⟨value, value, value⟩
    | _ => k

def ofOptions (o : Options) : Except (String × Octets) Likeness :=
  o.given.foldlM (fun k (letter, v) =>
    let all (value : Bool) (name : String) : Except (String × Octets) Likeness :=
      (splitAt ',' v).foldlM (fun k word =>
        match k.set value word with
        | some k => .ok k
        | none => .error (name, word)) k
    match letter with
    | 'a' => .ok ⟨true, true, true⟩
    | 'd' => .ok { k with names := true }
    | 'p' => if v.isEmpty then .ok { k with mode := true, time := true } else all true "--preserve"
    | '\x05' => all false "--no-preserve"
    | _ => .ok k) ⟨false, false, false⟩

end Likeness

def withParents (c : Context) (verbose : Bool) (target source : Octets) (s : Copying) :
    Copying × Octets :=
  let relative := source.dropWhile (· == '/')
  let path := below target relative
  match makeParents c s.tree (c.masked 0o777)
      (joinWith ['/'] ((splitAt '/' (trimSlashes path)).dropLast)) with
  | .ok (t, made) =>
      let s := s.withTree t
      let front := (below target []).length
      (if verbose then made.foldl (fun s dir => s.say (dir.drop front ++ " -> ".toList ++ dir)) s
        else s, path)
  | .error (file, e) => (s.failAbout "cannot make directory" file e, path)

def copyAll (c : Context) (m : Manner) (o : Options) (r : Request) : Copying :=
  r.sources.foldl (fun s source =>
    let source := if o.has '\x08' then trimSlashes source else source
    let (s, target) := if o.has '\x03' then withParents c m.verbose r.target source s
      else (s, r.pathFor source)
    -- What is copied into a directory under a dot goes there as it is.
    let target := if r.into && (lastName source = ['.'] || lastName source = ['.', '.']) then
        r.target
      else target
    -- A file that is to replace itself goes to the name under which it would be kept.
    let (m, target) := if !r.into && m.force && m.keeping.isOn && source = target then
        match nodeAt c s.tree target true with
        | .ok n => if n.entry.isRegular then
            ({ m with keeping := .nothing }, m.keeping.nameFor s.tree n.location target)
          else (m, target)
        | .error _ => (m, target)
      else (m, target)
    copyEntry c m 64 true (source, target) source target
      { s with first? := none, inItself := false }) (.start c)

def cp (c : Context) : Answer :=
  withOptions c "cp" 1 "abdfiHlLnpPrRsS:t:Tuvx" cpOptions fun o =>
    let misuse (text : String) : Answer := .failure c 1 (("cp: " ++ text).toList ++ tryHelp "cp")
    match requestOf c "cp" o, Keeping.ofOptions c "cp" o, Likeness.ofOptions o with
    | _, .error message, _ => .failure c 1 message
    | _, _, .error (name, word) => .failure c 1 ("cp: invalid argument ".toList ++ quoted c word ++
        " for ".toList ++ quoted c name.toList ++ tryHelp "cp")
    | .error answer, _, _ => answer
    | .ok r, .ok keeping, .ok likeness =>
      let choice := o.lastOf "ni"
      if keeping.isOn && choice == some 'n' then
        misuse "options --backup and --no-clobber are mutually exclusive"
      else if o.has 'l' && o.has 's' then misuse "cannot make both hard and symbolic links"
      else if o.has '\x03' && !r.into then
        misuse "with --parents, the destination must be a directory"
      else match needForPipes? c (if o.hasAny "rRa" then [] else r.sources) with
      | some answer => answer
      | none =>
      let recursive := o.hasAny "rRa"
      let lastLink := o.lastOf "LPdaH"
      let keeps := match lastLink with
        | some 'L' | some 'H' => false
        | some _ => true
        | none => recursive && !o.has 'l'
      let m : Manner :=
        { recursive
          keepsNamed := keeps
          keepsFound := if lastLink == some 'H' then recursive else keeps
          keepsMode := likeness.mode
          keepsTime := likeness.time
          keepsNames := likeness.names
          force := o.has 'f'
          verbose := o.has 'v'
          neverReplaces := choice == some 'n'
          asks := choice == some 'i'
          onlyNewer := o.has 'u'
          hardLinks := o.has 'l'
          symbolicLinks := o.has 's'
          removesFirst := o.has '\x04'
          withoutData := o.has '\x0b'
          readsSpecial := o.has '\x0c'
          keeping
          several := r.into && r.sources.length > 1 }
      (copyAll c m o r).work.answer

end Transfer

end Utility

end Conformance
