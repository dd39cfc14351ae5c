import Conformance.Text.Blank

/-!
# Paths

A path is kept as it was written.  Its components are read from the text: repeated slashes count as
one, and the component `.` counts only at the front of a relative path.
-/

namespace Conformance

structure Path where
  text : String
  deriving DecidableEq, Repr

namespace Path

instance : ToString Path := ⟨Path.text⟩

def isEmpty (p : Path) : Bool := p.text.isEmpty

def isAbsolute (p : Path) : Bool := p.text.toList.head? == some '/'

/-- The parts between slashes, empty ones left out. -/
def parts (p : Path) : List String :=
  ((Text.splitWhen (· == '/') p.text.toList).filter (fun n => !n.isEmpty)).map String.ofList

/-- The components that name something: the parts other than the single dot. -/
def names (p : Path) : List String :=
  p.parts.filter (· != ".")

/-- The path is relative and says so by a dot in front. -/
def startsWithDot (p : Path) : Bool :=
  !p.isAbsolute && p.parts.head? == some "."

/-- How many components a relative path has. -/
def relativeLength (p : Path) : Nat :=
  p.names.length + (if p.startsWithDot then 1 else 0)

def endsWithSlash (p : Path) : Bool := p.text.toList.getLast? == some '/'

/-- A relative path of one component names something in the working directory itself. -/
def isBare (p : Path) : Bool :=
  !p.isAbsolute && p.relativeLength == 1

/-- The directory that an absolute path starts from: exactly two slashes are kept as they are, any
other number counts as one. -/
def topText (p : Path) : String :=
  match p.text.toList with
  | '/' :: '/' :: '/' :: _ => "/"
  | '/' :: '/' :: _ => "//"
  | _ => "/"

/-- Goes from the directory `p` down to `name`. -/
def join (p : Path) (name : String) : Path :=
  if p.isEmpty || p.endsWithSlash then ⟨p.text ++ name⟩ else ⟨p.text ++ "/" ++ name⟩

/-- A closing slash, where there is none yet. -/
def closed (p : Path) : Path :=
  if p.endsWithSlash then p else ⟨p.text ++ "/"⟩

/-- The path seen from the top, for a working directory that is given by an absolute path.  An empty
path leads nowhere. -/
def absolute? (workingDirectory p : Path) : Option Path :=
  if p.isEmpty then none
  else
    let start : Path := if p.isAbsolute then ⟨p.topText⟩ else workingDirectory
    let whole := p.names.foldl join start
    some (if p.endsWithSlash then whole.closed else whole)

/-- A path under which the operating system finds a program without searching for its name. -/
def anchored (p : Path) : Path :=
  if p.isBare then ⟨"./" ++ p.text⟩ else p

end Path

/-- The extension of a file name is what follows its last dot, where something comes before that. -/
def extension? (name : String) : Option String :=
  match (Text.splitWhen (· == '.') name.toList).reverse with
  | [] | [_] | [_, []] => none
  | extension :: _ => some (String.ofList extension)

end Conformance
