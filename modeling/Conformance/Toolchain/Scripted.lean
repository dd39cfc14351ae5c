import Conformance.Toolchain

/-!
# Scripted toolchains

A toolchain whose stages are fixed in advance for each source.  It remembers the source that was
compiled last; building and executing are about that one.
-/

namespace Conformance

/-- The results of the stages for one source. -/
structure Script where
  compile : Except Fault Capture
  build : Except Fault Artifact
  execute : Except Fault Capture

namespace Script

/-- The toolchain that follows the script of each source. -/
def toolchain (scripts : Path → Script) : Toolchain Path where
  compile source _ := ((scripts source).compile, source)
  build current := ((scripts current).build, current)
  execute _ current := ((scripts current).execute, current)

end Script

end Conformance
