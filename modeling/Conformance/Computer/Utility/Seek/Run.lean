import Conformance.Computer.Utility.Seek.Reader

/-!
# Searching the tree

The program `find`: it goes through the tree below some paths and looks at its condition for each
entry.  A search that has run commands is gone through again with their outcomes, up to the next
command.
-/

namespace Conformance

namespace Utility

namespace Seek

/-- Paths that wait for a command. -/
structure Batch where
  command : Command
  directory : Octets
  files : List Octets

structure State where
  tree : FileTree
  /-- The outcomes of commands that are still ahead. -/
  ran : List Ran
  prints : List Print
  failed : Bool
  pruned : Bool
  batches : List Batch
  answers : Octets

/-- Why a search stops. -/
inductive Stop where
  | quits
  | needsInput
  | calls (c : Call)

abbrev Run := ExceptT Stop (StateM State)

def complain (message : Octets) : Run Unit :=
  modify fun st => { st with
    prints := .err ("find: ".toList ++ message ++ ['\n']) :: st.prints
    failed := true }

def put (c : Context) (file : Option Octets) (s : Octets) : Run Unit := do
  match file with
  | none => modify fun st => { st with prints := .out s :: st.prints }
  | some file =>
      let st ← get
      match writeFile c st.tree file true s with
      | .ok (tree, prints) => set { st with tree, prints := prints.reverse ++ st.prints }
      | .error e => complain (quoted c file ++ ": ".toList ++ errorText e)

/-! ## Commands -/

/-- Runs a command, in a directory if one is given, and tells whether it succeeds. -/
def call (c : Context) (directory : Option Octets) (words : List Octets) : Run Bool := do
  let st ← get
  match st.ran with
  | r :: rest => do
      set { st with ran := rest, tree := r.tree }
      return r.status = .code 0
  | [] =>
      let args := match directory with
        | some dir => "env".toList :: "-C".toList :: dir :: words
        | none => words
      throw (.calls { args, environment := c.environment, input := none, captures := false })

def braces : Octets := "\x7b\x7d".toList

def callName (v : Visit) : Octets :=
  if v.name = ['/'] then v.name else "./".toList ++ v.name

def runBatch (c : Context) (b : Batch) : Run Unit := do
  let directory := if b.command.inside then some b.directory else none
  if !(← call c directory (b.command.words ++ b.files)) then
    modify fun st => { st with failed := true }

/-- Runs the commands that wait for more paths, all of them or those for other directories. -/
def runBatches (c : Context) (keep : Batch → Bool) : List Batch → Run Unit
  | [] => return
  | b :: rest => do
      if keep b then modify fun st => { st with batches := st.batches ++ [b] }
      else runBatch c b
      runBatches c keep rest

def flush (c : Context) (keep : Batch → Bool) : Run Unit := do
  let waiting := (← get).batches
  modify fun st => { st with batches := [] }
  runBatches c keep waiting

/-- Hands a path over to a command that takes many. -/
def gather (c : Context) (command : Command) (v : Visit) : Run Unit := do
  let directory := if command.inside then v.directory else []
  let file := if command.inside then callName v else v.file
  flush c fun b => b.command.index != command.index || b.directory = directory
  modify fun st =>
    let (own, others) := st.batches.partition fun b => b.command.index = command.index
    let files := own.flatMap Batch.files ++ [file]
    { st with batches := others ++ [⟨command, directory, files⟩] }

def ask (c : Context) (words : List Octets) : Run Bool := do
  if !c.inputEnded then throw .needsInput
  let st ← get
  let question := "< ".toList ++ joinWith [' '] words ++ " > ? ".toList
  let line := st.answers.takeWhile (· != '\n')
  set { st with
    prints := .err question :: st.prints
    answers := st.answers.drop (line.length + 1) }
  return line.head? == some 'y' || line.head? == some 'Y'

def runCommand (c : Context) (command : Command) (v : Visit) : Run Bool := do
  if command.gathers then
    gather c command v
    return true
  let file := if command.inside then callName v else v.file
  let words := command.words.map fun w => Launching.replaceMark braces file (w.length + 1) w
  let directory := if command.inside then some v.directory else none
  if !command.asks then call c directory words
  else if ← ask c (words.take 1 ++ ["...".toList, file]) then call c directory words
  else return false

/-! ## Conditions -/

def delete (c : Context) (v : Visit) : Run Bool := do
  if v.file = ['.'] then return true
  let st ← get
  let result : Except IoError FileTree :=
    if v.node.entry.isDirectory && !(st.tree.names v.location).isEmpty then .error (.os .notEmpty)
    else Files.unlink (st.tree.atTime c.now) v.location
  match result with
  | .ok tree => do
      set { st with tree }
      return true
  | .error e => do
      complain ("cannot delete ".toList ++ quoted c v.file ++ ": ".toList ++ errorText e)
      return false

def perform (c : Context) (v : Visit) (a : Action) : Run Bool := do
  match a with
  | .print file ending => do
      put c file (v.file ++ [ending])
      return true
  | .format file pieces => do
      put c file (fill (← get).tree v pieces)
      return true
  | .list file => do
      put c file (longLine c (← get).tree v)
      return true
  | .delete => delete c v
  | .prune => do
      modify fun st => { st with pruned := true }
      return true
  | .quit => do
      flush c fun _ => false
      throw .quits
  | .run command => runCommand c command v

def Condition.check (c : Context) (v : Visit) : Condition → Run Bool
  | .test t => return t.holds (← get).tree v
  | .act a => perform c v a
  | .negation a => return !(← a.check c v)
  | .both a b => do
      if ← a.check c v then b.check c v else return false
  | .either a b => do
      if ← a.check c v then return true else b.check c v
  | .second a b => do
      let _ ← a.check c v
      b.check c v

/-! ## Going through the tree -/

def missing (c : Context) (file : Octets) (e : IoError) : Run Unit :=
  complain (quoted c file ++ ": ".toList ++ errorText e)

/-- The entry at a place, or what it leads to if links are followed and it leads somewhere. -/
def nodeAt (t : FileTree) (follows : Bool) (loc : Location) : Option Node :=
  match t.node? loc with
  | some n =>
      match follows, n.entry with
      | true, .link target =>
          match t.lookup loc.dropLast target true with
          | .ok (found, _) => t.node? found
          | .error _ => some n
      | _, _ => some n
  | none => none

def judge (c : Context) (r : Request) (v : Visit) : Run Unit := do
  if v.depth ≥ r.manner.least then
    let _ ← r.condition.check c v

/-- Looks at an entry and at what is below it; fuel bounds how deep directories nest. -/
def visit (c : Context) (r : Request) (fuel : Nat) (v : Visit) : Run Unit := do
  match fuel with
  | 0 => return
  | fuel + 1 =>
    modify fun st => { st with pruned := false }
    let place := v.node.location
    match v.above.lookup place with
    | some outer =>
        return ← complain ("File system loop detected; ".toList ++ quoted c v.file ++
          " is part of the same file system loop as ".toList ++ quoted c outer ++ ['.'])
    | none => pure ()
    if !r.manner.depthFirst then judge c r v
    let st ← get
    let enters := v.node.entry.isDirectory && r.manner.most.all (v.depth < ·) &&
      !(st.pruned && !r.manner.depthFirst)
    if enters then
      if (st.tree.node? place).isNone then missing c v.file (.os .noEntry)
      else if !st.tree.mayRead place then missing c v.file (.os .accessDenied)
      else
        (st.tree.names place).forM fun name => do
          let file := Files.below v.file (Octets.ofString name)
          let follows := r.manner.following = .always
          match nodeAt (← get).tree follows (place ++ [name]) with
          | some node =>
              let above := (place, v.file) :: v.above
              visit c r fuel ⟨file, v.origin, v.depth + 1, place ++ [name], node, above⟩
          | none => missing c file (.os .noEntry)
    if r.manner.depthFirst then judge c r v

def visitPath (c : Context) (r : Request) (path : Octets) : Run Unit := do
  let t := (← get).tree
  match t.lookup c.directory (pathOf path) false with
  | .error e => missing c path e
  | .ok (loc, _) =>
      match nodeAt t (r.manner.following != .never) loc with
      | some node => visit c r 256 ⟨path, path, 0, loc, node, []⟩
      | none => missing c path (.os .noEntry)

def search (c : Context) (r : Request) : Run Unit := do
  r.paths.forM (visitPath c r)
  flush c fun _ => false

def withOutputs (c : Context) (t : FileTree) : List Octets → Except Octets FileTree
  | [] => .ok t
  | file :: rest =>
      match writeFile c t file false [] with
      | .ok (t, _) => withOutputs c t rest
      | .error e => .error (quoted c file ++ ": ".toList ++ errorText e)

def find (c : Context) : Answer :=
  let refuse (message : Octets) : Answer := .failure c 1 ("find: ".toList ++ message)
  if c.args = ["--version".toList] || c.args = ["-version".toList] then
    .ok c "find (GNU findutils) 4.9.0\n".toList
  else if c.args = ["--help".toList] || c.args = ["-help".toList] then
    .ok c ("Usage: find [-H] [-L] [-P] [-Olevel] [-D debugopts] [path...] " ++
      "[expression]\n").toList
  else match Request.read c with
    | .error message => refuse message
    | .ok r =>
        let tree := if c.ran.isEmpty then c.tree else c.before
        match withOutputs c (tree.atTime c.now) r.outputs with
        | .error message => refuse message
        | .ok tree =>
            let (result, st) := (search c r).run ⟨tree, c.ran, [], false, false, [], c.input⟩
            let prints := st.prints.reverse
            match result with
            | .ok _ | .error .quits => .ends ⟨prints, if st.failed then 1 else 0, st.tree⟩
            | .error .needsInput => .more
            | .error (.calls call) => .calls prints st.tree call

end Seek

end Utility

end Conformance
