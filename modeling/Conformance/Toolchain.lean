import Conformance.Fault

/-!
# Toolchains

A toolchain compiles a source, builds an executable from what the compiler wrote, and executes it.
It may remember things from one stage to the next, and each stage may fail.
-/

namespace Conformance

/-- What a finished command has printed, in the normal form of output, and the code it ended with;
a command that was killed has none. -/
structure Capture where
  lines : List String
  status : Option Int
  deriving DecidableEq, Repr

/-- An executable that was built.  The file of an owned one goes when the artifact is released. -/
structure Artifact where
  path : Path
  owned : Bool
  deriving DecidableEq, Repr

namespace Artifact

instance : ToString Artifact := ⟨fun a => a.path.text⟩

end Artifact

structure Toolchain (σ : Type) where
  compile : Path → σ → Except Fault Capture × σ
  build : σ → Except Fault Artifact × σ
  /-- Executes an artifact and releases it. -/
  execute : Artifact → σ → Except Fault Capture × σ

/-- A stage of a toolchain that was begun. -/
inductive StageCall where
  | compile (source : Path)
  | build
  | execute (artifact : Artifact)
  deriving DecidableEq, Repr

namespace StageCall

protected def toString : StageCall → String
  | compile source => "compile " ++ source.text
  | build => "build"
  | execute artifact => "execute " ++ artifact.path.text

instance : ToString StageCall := ⟨StageCall.toString⟩

end StageCall

namespace Toolchain

variable {σ : Type}

/-- The same toolchain with a record of the stages begun, oldest first. -/
def traced (tools : Toolchain σ) : Toolchain (σ × List StageCall) where
  compile source s :=
    let (result, next) := tools.compile source s.1
    (result, next, s.2 ++ [.compile source])
  build s :=
    let (result, next) := tools.build s.1
    (result, next, s.2 ++ [.build])
  execute artifact s :=
    let (result, next) := tools.execute artifact s.1
    (result, next, s.2 ++ [.execute artifact])

end Toolchain

end Conformance
