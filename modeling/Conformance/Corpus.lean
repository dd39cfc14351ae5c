import Conformance.Fault
import Conformance.FileTree.Walk

/-!
# The corpus

The tests are files in the directories right below the corpus directory.  Each such directory is a
suite; names that begin with a dot are left out, and so is what cannot be listed.  Suites and tests
come in the order of their names.
-/

namespace Conformance

structure Case where
  path : Path
  suite : String
  deriving DecidableEq, Repr

structure Suite where
  name : String
  cases : List Case
  deriving DecidableEq, Repr

namespace Corpus

def isHidden (name : String) : Bool := name.toList.head? == some '.'

/-- The tests of the suite at a path, given the names in it. -/
def casesOf (t : FileTree) (dir : Location) (extension suite : String) (path : Path)
    (names : List String) : List Case :=
  (names.filter fun name =>
    t.isRegularFile dir (path.join name) && extension? name == some extension).map
      fun name => ⟨path.join name, suite⟩

/-- The suite that an entry of the corpus directory is, if it is one. -/
def suiteOf? (t : FileTree) (dir : Location) (extension : String) (root : Path) (name : String) :
    Option Suite :=
  let path := root.join name
  if isHidden name then none
  else match t.list dir path with
    | .error _ => none
    | .ok names => some ⟨name, casesOf t dir extension name path names⟩

/-- Finds the suites below a directory, for a working directory `dir`. -/
def discover (t : FileTree) (dir : Location) (root : Path) (extension : String) :
    Except Fault (List Suite) :=
  match Path.absolute? dir.toPath root with
  | none => .error (.corpus root .emptyPath)
  | some root =>
      match t.list dir root with
      | .error cause => .error (.corpus root cause)
      | .ok names => .ok (names.filterMap (suiteOf? t dir extension root))

/-- All tests in the order in which they are run. -/
def cases (suites : List Suite) : List Case := suites.flatMap Suite.cases

end Corpus

end Conformance
