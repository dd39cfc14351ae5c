import Conformance.Errno
import Conformance.FileTree

/-!
# Following paths

The names of a path are followed one after the other from a directory.  A link on the way is
replaced by what it says, up to forty times.  A closing slash asks for a directory, as a closing dot
does; only the dot asks for one that may be searched.
-/

namespace Conformance

namespace FileTree

/-- Where a path has led: to an entry, or to a free place in a directory. -/
structure Spot where
  location : Location
  found? : Option Entry
  deriving Repr

/-- How many links are followed for one path. -/
def linkLimit : Nat := 40

def nameLimit : Nat := 255

def pathLimit : Nat := 4096

/-- The names in a path, with an empty one for a closing slash. -/
def steps (path : Path) : List String :=
  if path.endsWithSlash then path.parts ++ [""] else path.parts

/-- The directory from which a path is followed. -/
def origin (dir : Location) (path : Path) : Location :=
  if path.isAbsolute then [] else dir

/-- Follows names from a directory, up to the first link that is followed.  A link at the very end is
followed if `followLast` says so.  Only directories that may be searched are gone through. -/
def walkTo (t : FileTree) (followLast : Bool)
    (follow : Location → Path → List String → Except Errno Spot) (here : Location) :
    List String → Except Errno Spot
  | [] => .ok ⟨here, t.find here⟩
  | name :: rest =>
      match t.node? here with
      | none => .error .noEntry
      | some n =>
          if !n.entry.isDirectory then .error .notDirectory
          else if name = "" then walkTo t followLast follow here rest
          else if !n.stamp.isExecutable then .error .accessDenied
          else if name = "." then walkTo t followLast follow here rest
          else if name = ".." then walkTo t followLast follow here.dropLast rest
          else if name.utf8ByteSize > nameLimit then .error .nameTooLong
          else
            let next := here ++ [name]
            match t.find next with
            | none => if rest = [] then .ok ⟨next, none⟩ else .error .noEntry
            | some (.link target) =>
                if rest = [] && !followLast then .ok ⟨next, some (.link target)⟩
                else follow here target rest
            | some _ => walkTo t followLast follow next rest

/-- Follows names from a directory, through at most so many links. -/
def walk (t : FileTree) (followLast : Bool) :
    Nat → Location → List String → Except Errno Spot
  | 0 => walkTo t followLast fun _ _ _ => .error .linkLoop
  | links + 1 => walkTo t followLast fun here target rest =>
      if target.isEmpty then .error .noEntry
      else walk t followLast links (origin here target) (steps target ++ rest)

/-- Refuses a path that the system does not look at. -/
def checkText (path : Path) : Except IoError Unit := do
  if path.text.toList.contains '\x00' then throw .nulInName
  if path.isEmpty then throw (.os .noEntry)
  if path.text.utf8ByteSize ≥ pathLimit then throw (.os .nameTooLong)

/-- Where a path leads from a working directory. -/
def locate (t : FileTree) (dir : Location) (path : Path) (followLast : Bool) :
    Except IoError Spot := do
  checkText path
  match t.walk followLast linkLimit (origin dir path) (steps path) with
  | .ok spot => return spot
  | .error e => throw (.os e)

/-- The entry that a path leads to. -/
def lookup (t : FileTree) (dir : Location) (path : Path) (followLast : Bool) :
    Except IoError (Location × Entry) := do
  let spot ← t.locate dir path followLast
  match spot.found? with
  | some e => return (spot.location, e)
  | none => throw (.os .noEntry)

/-- Something is at the path, be it a link that leads nowhere. -/
def isPresent (t : FileTree) (dir : Location) (path : Path) : Bool :=
  (t.lookup dir path false).isOk

def isDirectory (t : FileTree) (dir : Location) (path : Path) : Bool :=
  match t.lookup dir path true with
  | .ok (_, e) => e.isDirectory
  | .error _ => false

def isRegularFile (t : FileTree) (dir : Location) (path : Path) : Bool :=
  match t.lookup dir path true with
  | .ok (_, e) => e.isRegular
  | .error _ => false

/-- What stands at a location may be read. -/
def mayRead (t : FileTree) (loc : Location) : Bool := (t.stamp? loc).any Stamp.isReadable

/-- What stands at a location may be changed. -/
def mayWrite (t : FileTree) (loc : Location) : Bool := (t.stamp? loc).any Stamp.isWritable

/-- The names in the directory at a path. -/
def list (t : FileTree) (dir : Location) (path : Path) : Except IoError (List String) := do
  match ← t.lookup dir path true with
  | (loc, .directory) => if t.mayRead loc then return t.names loc else throw (.os .accessDenied)
  | _ => throw (.os .notDirectory)

/-- What the file at a path holds. -/
def read (t : FileTree) (dir : Location) (path : Path) : Except IoError Bytes := do
  match ← t.lookup dir path true with
  | (loc, .file content) => if t.mayRead loc then return content.data else throw (.os .accessDenied)
  | _ => throw (.os .isDirectory)

/-- The path up to its last name. -/
def parentPath (path : Path) : Path :=
  match (path.text.toList.reverse.dropWhile (· == '/')).dropWhile (· != '/') with
  | [] => ⟨"."⟩
  | up => ⟨String.ofList up.reverse⟩

/-- The directory in which the last name of a path stands. -/
def parentOf (t : FileTree) (dir : Location) (path : Path) : Except IoError Location := do
  checkText path
  match ← t.lookup dir (parentPath path) true with
  | (loc, .directory) => return loc
  | _ => throw (.os .notDirectory)

/-- Takes away the file or link at a path; a link is not followed. -/
def remove (t : FileTree) (dir : Location) (path : Path) : Except IoError FileTree := do
  let parent ← t.parentOf dir path
  match path.parts.getLast? with
  | none | some "." | some ".." => throw (.os .isDirectory)
  | some name =>
      if name.utf8ByteSize > nameLimit then throw (.os .nameTooLong)
      let loc := parent ++ [name]
      match t.find loc with
      | none => throw (.os .noEntry)
      | some .directory => throw (.os .isDirectory)
      | some _ =>
          if path.endsWithSlash then throw (.os .notDirectory)
          if !t.mayWrite parent then throw (.os .accessDenied)
          return t.erase loc

/-- Where the last name of a path is to stand, be its directories there or not. -/
def placeFor (t : FileTree) (dir : Location) (path : Path) : Location :=
  path.names.foldl (fun loc name =>
    match t.lookup loc ⟨name⟩ true with
    | .ok (found, _) => found
    | .error _ => loc ++ [name]) (origin dir path)

/-- Puts an entry at a path, with the directories on the way to it.  A file that is there keeps its
permissions and its places, a file is written through a link, and a directory that is there
stays. -/
def put (t : FileTree) (dir : Location) (path : Path) (mode : Nat) (e : Entry) : FileTree :=
  match t.locate dir path (!e.isLink), e with
  | .ok ⟨_, some .directory⟩, .directory => t
  | .ok ⟨loc, some (.file _)⟩, .file content =>
      match t.stamp? loc with
      | some stamp => t.rewrite stamp.number content
      | none => t.insertWith mode loc e
  | .ok spot, _ => t.insertWith mode spot.location e
  | .error _, _ =>
      let loc := t.placeFor dir path
      (t.insertParents loc).insertWith mode loc e

end FileTree

end Conformance
