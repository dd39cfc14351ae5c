import Conformance.Computer.Machine.Workplace

/-!
# The command line

The files below the working directory are read into a machine, and the program runs there.  It works
on a copy: what its commands do to files is not seen outside.
-/

namespace Conformance

namespace WorkingCopy

/-- A file whose mode is not known counts as executable if it names an interpreter. -/
def withFile (t : FileTree) (location : Location) (data : Bytes) : FileTree :=
  let mode := if (Launch.interpreterOf? (Octets.ofBytes data)).isSome then 0o755 else 0o644
  t.insertWith mode location (.file (.bytes data))

/-- Reads what stands at one place of a directory, and all below it. -/
partial def load (t : FileTree) (location : Location) (entry : IO.FS.DirEntry) : IO FileTree := do
  let here := location ++ [entry.fileName]
  try
    match (← entry.path.symlinkMetadata).type with
    | .dir =>
        (← entry.path.readDir).foldlM (fun t below => load t here below) (t.insert here .directory)
    | .file =>
        let data ← IO.FS.readBinFile entry.path
        return withFile t here data.toList
    | .symlink =>
        let target ← IO.FS.realPath entry.path
        return t.insert here (.link ⟨target.toString⟩)
    | .other => return t
  catch _ => return t

/-- The variables of the environment that the program looks at. -/
def environment : IO Environment :=
  (Workplace.colorVariable :: Slot.ofRun.filterMap Slot.variableName?).filterMapM fun name => do
    return (← IO.getEnv name).map fun text => (name, text)

end WorkingCopy

end Conformance

open Conformance in
/-- Runs the program on its arguments in the working directory. -/
def main (args : List String) : IO UInt32 := do
  let current ← IO.currentDir
  let location : Location := Path.names ⟨current.toString⟩
  let start := Launch.standardTree.insertParents (location ++ ["."])
  let tree ← (← current.readDir).foldlM (fun t entry => WorkingCopy.load t location entry)
    (start.insert location .directory)
  let env ← WorkingCopy.environment
  let place := Machine.workplace location env (← (← IO.getStdout).isTty)
  match (Program.run place env args (.going (Machine.start tree))).1 with
  | none =>
      while true do
        IO.sleep 1000
      return 0
  | some outcome =>
      IO.print outcome.output
      match outcome.message with
      | some message => IO.eprintln message
      | none => pure ()
      return UInt32.ofNat (outcome.code % 256).toNat
