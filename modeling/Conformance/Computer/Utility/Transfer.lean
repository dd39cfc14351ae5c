import Conformance.Computer.Utility.Transfer.Copying

/-!
# Moves and links

The programs `mv`, `ln` and `install`, which bring entries to other places.
-/

namespace Conformance

namespace Utility

namespace Transfer

open Files

/-! ## Moving -/

def mvOptions : List (String × Char × Arity) :=
  [("backup", 'b', .optional), ("force", 'f', .flag), ("interactive", 'i', .flag),
    ("no-clobber", 'n', .flag), ("strip-trailing-slashes", '\x03', .flag),
    ("suffix", 'S', .required), ("target-directory", 't', .required),
    ("no-target-directory", 'T', .flag), ("update", 'u', .flag), ("verbose", 'v', .flag)]

structure Moving where
  /-- What is done about what stands at the target: `i`, `n` or `f`. -/
  choice? : Option Char
  onlyNewer : Bool
  verbose : Bool
  keeping : Keeping
  several : Bool

/-- How far moving has come: the work, and where named files have gone. -/
abbrev Moved := Work × List Location

def moveEntry (c : Context) (m : Moving) (source target : Octets) (s : Moved) : Moved :=
  let (w, made) := s
  let stay (w : Work) : Moved := (w, made)
  let cannot (w : Work) (e : IoError) : Moved :=
    (w.fail ("mv: cannot move ".toList ++ quotedName source ++ " to ".toList ++ quotedName target ++
      ": ".toList ++ errorText e), made)
  match nodeAt c w.tree (trimSlashes source) false with
  | .error e => stay (w.failAbout "mv" "cannot stat" source e)
  | .ok src =>
    let isDirectory := src.entry.isDirectory
    if source.getLast? == some '/' && !isDirectory then
      if src.entry.isLink then cannot w (.os .notDirectory)
      else stay (w.failAbout "mv" "cannot stat" source (.os .notDirectory))
    else match placeOf c w.tree (trimSlashes target) with
    | .error e => cannot w e
    | .ok spot =>
      let place := spot.location
      let relocated (w : Work) (kept? : Option Octets) : Moved :=
        if isDirectory && src.location.isPrefixOf place then
          stay (w.fail ("mv: cannot move ".toList ++ quotedName source ++
            " to a subdirectory of itself, ".toList ++ quotedName target))
        else if !mayChange w.tree src.location || !mayChange w.tree place then
          cannot w (.os .accessDenied)
        else
          let w := { w with tree := w.tree.move src.location place }
          (if m.verbose then
            w.say ("renamed ".toList ++ quotedName source ++ " -> ".toList ++ quotedName target ++
              keptText kept?)
          else w, if m.several then place :: made else made)
      match w.tree.node? place with
      | none =>
          if target.getLast? == some '/' && !isDirectory then cannot w (.os .notDirectory)
          else relocated w none
      | some dst =>
          let relation := sameness c w.tree ⟨true, false, false, false, m.keeping.isOn, true⟩
            source target src dst
          if relation = .clash then
            stay (w.fail ("mv: ".toList ++ quotedName source ++ " and ".toList ++
              quotedName target ++ " are the same file".toList))
          else if m.choice? == some 'n' ||
              (m.onlyNewer && !isDirectory && dst.stamp.time ≥ src.stamp.time) then stay w
          else
            let (goes, w) := if m.choice? == some 'i' then
                w.ask ("mv: overwrite ".toList ++ quotedName target)
              else (true, w)
            if !goes || relation = .done then stay w
            else if !isDirectory && dst.entry.isDirectory && !m.keeping.isOn then
              stay (w.fail ("mv: cannot overwrite directory ".toList ++ quotedName target ++
                " with non-directory".toList))
            else if !isDirectory && m.keeping.backup != .numbered && made.contains place then
              stay (w.fail ("mv: will not overwrite just-created ".toList ++ quotedName target ++
                " with ".toList ++ quotedName source))
            else if isDirectory && !dst.entry.isDirectory && !m.keeping.isOn then
              stay (w.fail ("mv: cannot overwrite non-directory ".toList ++ quotedName target ++
                " with directory ".toList ++ quotedName source))
            else if m.keeping.isOn then
              if m.keeping.destroys src.location place then
                stay (w.fail ("mv: backing up ".toList ++ quotedName target ++
                  " might destroy source;  ".toList ++ quotedName source ++ " not moved".toList))
              else if isDirectory && src.location.isPrefixOf place then relocated w none
              else match m.keeping.keep c w.tree place target with
                | .ok (t, kept) => relocated { w with tree := t } (some kept)
                | .error e => stay (w.failAbout "mv" "cannot backup" target e)
            else if dst.entry.isDirectory && !(w.tree.names place).isEmpty then
              cannot w (.os .notEmpty)
            else relocated w none

def mv (c : Context) : Answer :=
  withOptions c "mv" 1 "bfinS:t:TuvZ" mvOptions fun o =>
    match requestOf c "mv" o, Keeping.ofOptions c "mv" o with
    | _, .error message => .failure c 1 message
    | .error answer, _ => answer
    | .ok r, .ok keeping =>
        let m : Moving :=
          { choice? := o.lastOf "nif"
            onlyNewer := o.has 'u'
            verbose := o.has 'v'
            keeping
            several := r.into && r.sources.length > 1 }
        if m.choice? == some 'n' && keeping.isOn then
          .failure c 1 ("mv: options --backup and --no-clobber are mutually exclusive".toList ++
            tryHelp "mv")
        else
          let moved := r.sources.foldl (fun s source =>
            let source := if o.has '\x03' then trimSlashes source else source
            moveEntry c m source (r.pathFor source) s) ((.start c, []) : Moved)
          moved.1.answer

/-! ## Links -/

def lnOptions : List (String × Char × Arity) :=
  [("backup", 'b', .optional), ("force", 'f', .flag), ("interactive", 'i', .flag),
    ("logical", 'L', .flag), ("no-dereference", 'n', .flag), ("physical", 'P', .flag),
    ("relative", 'r', .flag), ("symbolic", 's', .flag), ("suffix", 'S', .required),
    ("target-directory", 't', .required), ("no-target-directory", 'T', .flag),
    ("verbose", 'v', .flag)]

def relativePath (dir target : Location) : Octets :=
  let shared := ((dir.zip target).takeWhile fun (a, b) => a = b).length
  let up := List.replicate (dir.length - shared) ['.', '.']
  match up ++ (target.drop shared).map Octets.ofString with
  | [] => ['.']
  | parts => joinWith ['/'] parts

def ln (c : Context) : Answer :=
  withOptions c "ln" 1 "bdFfiLnPrsS:t:Tv" lnOptions fun o =>
    let symbolic := o.has 's'
    let isDirectory (file : Octets) : Bool :=
      c.tree.isDirectory c.directory (pathOf file) &&
        !(o.has 'n' && (match c.tree.lookup c.directory (pathOf file) false with
          | .ok (_, .link _) => true
          | _ => false))
    let request? : Except Answer Request := match o.operands with
      | [target] =>
          if o.has 't' || o.has 'T' then requestOf c "ln" o else .ok ⟨[target], ['.'], true⟩
      | [target, link] =>
          if o.has 't' then requestOf c "ln" o
          else .ok ⟨[target], link, isDirectory link && !o.has 'T'⟩
      | _ => requestOf c "ln" o
    if (o.values 't').length > 1 then
      .failure c 1 "ln: multiple target directories specified".toList
    else if o.has 't' && o.has 'T' then
      .failure c 1 "ln: cannot combine --target-directory and --no-target-directory".toList
    else match request?, Keeping.ofOptions c "ln" o with
    | _, .error message => .failure c 1 message
    | .error answer, _ => answer
    | .ok r, .ok keeping => forEach c r.sources fun w target =>
        let link := if r.into then
            (if r.target = ['.'] && o.operands.length = 1 then
              (if r.into then "./".toList ++ lastName target else lastName target)
            else below r.target (lastName target))
          else r.target
        let doing := if symbolic then "failed to create symbolic link"
          else "failed to create hard link"
        let failToMake (e : IoError) : Work :=
          w.fail (("ln: " ++ doing ++ " ").toList ++ quotedName link ++
            (if symbolic then [] else " => ".toList ++ quotedName target) ++ ": ".toList ++
            errorText e)
        match placeOf c w.tree (trimSlashes link) with
        | .error e => failToMake e
        | .ok spot =>
          let old? := w.tree.node? spot.location
          let content : Octets := if symbolic && o.has 'r' then
              match w.tree.locate c.directory (pathOf target) true with
              | .ok s => relativePath spot.location.dropLast s.location
              | .error _ => target
            else target
          let entry? : Except Octets (Option Location) :=
            if symbolic then .ok none
            else match w.tree.lookup c.directory (pathOf target) (o.has 'L') with
              | .ok (_, .directory) =>
                  .error ("ln: ".toList ++ target ++
                    ": hard link not allowed for directory".toList)
              | .ok (loc, _) => .ok (some loc)
              | .error e => .error (about "ln" "failed to access" target e)
          match entry? with
          | .error message => w.fail message
          | .ok from? =>
            -- Taking the old entry away would take the target away too.
            let sameFile := match old?, w.tree.lookup c.directory (pathOf target) (symbolic || o.has 'L') with
              | some n, .ok (loc, _) =>
                  (w.tree.stamp? loc).any (fun s => s.number = n.stamp.number) &&
                    (loc = spot.location ||
                      (w.tree.nodes.filter fun m => m.stamp.number = n.stamp.number).length = 1)
              | _, _ => false
            let mayReplace := o.hasAny "fi" || keeping.isOn
            if sameFile && mayReplace then
              w.fail ("ln: ".toList ++ quotedName target ++ " and ".toList ++ quotedName link ++
                " are the same file".toList)
            else if (match old? with
                | some n => n.entry.isDirectory
                | none => false) && mayReplace then
              w.fail ("ln: ".toList ++ link ++ ": cannot overwrite directory".toList)
            else
            let asks := old?.isSome && o.lastOf "fi" == some 'i'
            let (goes, w) :=
              if asks then w.ask ("ln: replace ".toList ++ quotedName link) else (true, w)
            if !goes then w
            else if old?.isSome && !mayReplace then
              w.failAbout "ln" doing link (.os .fileExists)
            else if symbolic && content.isEmpty then
              w.fail ((("ln: " ++ doing ++ " ").toList) ++ quotedName link ++ " -> ".toList ++
                quotedName content ++ ": No such file or directory".toList)
            else if !mayChange w.tree spot.location then
              failToMake (.os .accessDenied)
            else
              let kept : FileTree × Option Octets :=
                if old?.isNone || !keeping.isOn then (w.tree, none)
                else match keeping.keep c w.tree spot.location link with
                  | .ok (t, kept) => (t, some kept)
                  | .error _ => (w.tree, none)
              let t := kept.1.erase spot.location
              let t := match from? with
                | none => t.insert spot.location (.link (pathOf content))
                | some loc => t.share loc spot.location
              let w := { w with tree := t }
              if o.has 'v' then
                let before := match kept.2 with
                  | some name => quotedName name ++ " ~ ".toList
                  | none => []
                w.say (before ++ quotedName link ++ (if symbolic then " -> ".toList else " => ".toList) ++
                  quotedName content)
              else w

/-- Copies files with a mode of their own, or makes directories. -/
def install (c : Context) : Answer :=
  let long : List (String × Char × Arity) :=
    [("directory", 'd', .flag), ("mode", 'm', .required), ("target-directory", 't', .required),
      ("no-target-directory", 'T', .flag), ("verbose", 'v', .flag),
      ("preserve-timestamps", 'p', .flag), ("compare", 'C', .flag), ("owner", 'o', .required),
      ("group", 'g', .required), ("strip", 's', .flag), ("backup", 'b', .optional),
      ("suffix", 'S', .required)]
  withOptions c "install" 1 "bcCdDg:m:o:psS:t:Tv" long fun o =>
    match changedMode? false 0 ((o.value? 'm').getD "755".toList) 0 with
    | none => .failure c 1 ("install: invalid mode ".toList ++ quoted c ((o.value? 'm').getD []))
    | some mode =>
      if o.has 'd' && o.operands.isEmpty then
        .failure c 1 ("install: missing file operand".toList ++ tryHelp "install")
      else if o.has 'd' then forEach c o.operands fun w dir =>
        match makeParents c w.tree mode (trimSlashes dir) with
        | .ok (t, made) =>
            let w := { w with tree := t }
            if o.has 'v' then made.foldl (fun w path =>
              w.say ("install: creating directory ".toList ++ quotedName path)) w
            else w
        | .error (path, e) =>
            w.fail ("install: cannot create directory ".toList ++ quoted c path ++ ": ".toList ++
              errorText e)
      else match requestOf c "install" o, Keeping.ofOptions c "install" o with
        | _, .error message => .failure c 1 message
        | .error answer, _ => answer
        | .ok r, .ok keeping =>
          match needForPipes? c r.sources with
          | some answer => answer
          | none => forEach c r.sources fun w source =>
            let target := r.pathFor source
            let w := if o.has 'D' then
                match makeParents c w.tree 0o755
                    (joinWith ['/'] ((splitAt '/' target).dropLast)) with
                | .ok (t, _) => { w with tree := t }
                | .error _ => w
              else w
            match w.tree.lookup c.directory (pathOf source) true with
            | .error e => w.failAbout "install" "cannot stat" source e
            | .ok (_, .directory) =>
                w.fail ("install: omitting directory ".toList ++ quotedName source)
            | .ok (_, .link _) => w
            | .ok (_, .file content) =>
                match placeOf c w.tree target with
                | .error e => w.failAbout "install" "cannot create regular file" target e
                | .ok ⟨_, some .directory⟩ =>
                    w.fail ("install: cannot overwrite directory ".toList ++ quotedName target ++
                      " with non-directory".toList)
                | .ok spot =>
                    let isOne := match nodeAt c w.tree source true, w.tree.node? spot.location with
                      | .ok a, some b => areOne a b
                      | _, _ => false
                    if isOne then
                      w.fail ("install: ".toList ++ quotedName source ++ " and ".toList ++
                        quotedName target ++ " are the same file".toList)
                    else
                    let isThere := spot.found?.isSome
                    let kept : FileTree × Option Octets :=
                      if !isThere || !keeping.isOn then (w.tree, none)
                      else match keeping.keep c w.tree spot.location target with
                        | .ok (t, kept) => (t, some kept)
                        | .error _ => (w.tree, none)
                    let w := if isThere && kept.2.isNone && o.has 'v' then
                        w.say ("removed ".toList ++ quotedName target)
                      else w
                    let t := (kept.1.erase spot.location).insertWith mode spot.location
                      (.file (copiedContent c source content))
                    let w := { w with tree := t }
                    if o.has 'v' then
                      w.say (quotedName source ++ " -> ".toList ++ quotedName target ++
                        keptText kept.2)
                    else w

end Transfer

end Utility

end Conformance
