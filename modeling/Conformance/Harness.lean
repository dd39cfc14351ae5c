import Conformance.Annotation
import Conformance.Corpus
import Conformance.Report
import Conformance.Toolchain

/-!
# The harness

Every test goes through the same steps: its expectation is read, its source compiled, and the
compiler's output classified.  Only a test that expects a value from a source that compiled goes on
to be built and executed.  A fault on the way is the failure of that test and of no other.
-/

namespace Conformance

/-- A toolchain, and the files that the tests are read from as the run stands. -/
structure Harness (σ : Type) where
  tools : Toolchain σ
  contents : Path → σ → Except IoError Bytes

namespace Harness

variable {σ : Type}

/-- Builds and executes the source that has just been compiled. -/
def produce (h : Harness σ) (s : σ) : Except Fault Capture × σ :=
  match h.tools.build s with
  | (.error fault, s) => (.error fault, s)
  | (.ok artifact, s) => h.tools.execute artifact s

/-- Compiles a source and reads the outcome from the compiler's output. -/
def compile (h : Harness σ) (source : Path) (s : σ) : Except Fault CompileOutcome × σ :=
  match h.tools.compile source s with
  | (.error fault, s) => (.error fault, s)
  | (.ok capture, s) =>
      match CompileOutcome.ofLines capture.lines with
      | .error malformed => (.error (.signal malformed), s)
      | .ok outcome => (.ok outcome, s)

/-- The verdict on a test, or the fault that kept it from being reached. -/
def attempt (h : Harness σ) (test : Case) (s : σ) : Except Fault Verdict × σ :=
  match Expectation.ofFile test.path (h.contents test.path s) with
  | .error fault => (.error fault, s)
  | .ok expectation =>
      match h.compile test.path s, expectation with
      | (.error fault, s), _ => (.error fault, s)
      | (.ok outcome, s), .error code => (.ok (.ofError code outcome), s)
      | (.ok (.failure code), s), .value _ => (.ok (.ofCompileFailure code), s)
      | (.ok .success, s), .value text =>
          match h.produce s with
          | (.error fault, s) => (.error fault, s)
          | (.ok capture, s) => (.ok (.ofValue text capture.lines), s)

/-- The verdict on a test; a fault is the reason of a failure. -/
def evaluate (h : Harness σ) (test : Case) (s : σ) : Verdict × σ :=
  match h.attempt test s with
  | (.ok verdict, s) => (verdict, s)
  | (.error fault, s) => (.fail fault.message, s)

/-- Evaluates one more test. -/
def step (h : Harness σ) (progress : Report × σ) (test : Case) : Report × σ :=
  let (verdict, s) := h.evaluate test progress.2
  (progress.1.record test.path.text verdict, s)

/-- Evaluates the tests of all suites in order. -/
def run (h : Harness σ) (suites : List Suite) (s : σ) : Report × σ :=
  (Corpus.cases suites).foldl h.step (Report.empty, s)

end Harness

end Conformance
