import Conformance.Proofs.Judgement
import Conformance.Proofs.Tally
import Conformance.Toolchain.Scripted

/-!
# Tests do not see each other

A toolchain may remember things from one test to the next.  Where what it does depends on no more
than the source compiled last, a test has the verdict in a run that it has alone, because a build is
only reached right after the compilation of the same test's source.  So a report is the sum of what
each test contributes, in the order of the tests.
-/

namespace Conformance

/-- What the stages give for each source. -/
structure StageResults where
  compile : Path → Except Fault Capture
  build : Path → Except Fault Artifact
  execute : Artifact → Path → Except Fault Capture

namespace StageResults

/-- What comes of building and executing a source. -/
def produce (results : StageResults) (source : Path) : Except Fault Capture :=
  (results.build source).bind fun artifact => results.execute artifact source

/-- The verdict on the source at a path, from the results and the files. -/
def verdict (results : StageResults) (files : Path → Except IoError Bytes) (source : Path) :
    Verdict :=
  Harness.judge (Expectation.ofFile source (files source))
    ((results.compile source).map fun capture => Signal.first? capture.lines)
    ((results.produce source).map fun output => output.lines.getLast?)

end StageResults

variable {σ τ : Type}

/-- The states of a toolchain in which `source` is what was compiled last.  A compilation that is at
fault may leave anything. -/
inductive Toolchain.LastCompiled (tools : Toolchain σ) (source : Path) : σ → Prop
  | compile {capture : Capture} {s t : σ} :
      tools.compile source s = (.ok capture, t) → LastCompiled tools source t
  | build {result : Except Fault Artifact} {s t : σ} :
      LastCompiled tools source s → tools.build s = (result, t) → LastCompiled tools source t
  | execute {artifact : Artifact} {result : Except Fault Capture} {s t : σ} :
      LastCompiled tools source s → tools.execute artifact s = (result, t) →
        LastCompiled tools source t

/-- The results of the toolchain depend on the source alone, for a compilation, and on the source
compiled last, for the later stages. -/
structure Toolchain.Follows (tools : Toolchain σ) (results : StageResults) : Prop where
  compile_fst (source : Path) (s : σ) : (tools.compile source s).1 = results.compile source
  build_fst {source : Path} {s : σ} :
    tools.LastCompiled source s → (tools.build s).1 = results.build source
  execute_fst {source : Path} {s : σ} (artifact : Artifact) :
    tools.LastCompiled source s → (tools.execute artifact s).1 = results.execute artifact source

/-- The toolchain follows the results, and the test files do not change. -/
structure Harness.Follows (h : Harness σ) (results : StageResults)
    (files : Path → Except IoError Bytes) : Prop where
  tools : h.tools.Follows results
  contents (path : Path) (s : σ) : h.contents path s = files path

namespace Script

/-- The results that scripts name. -/
def results (scripts : Path → Script) : StageResults where
  compile source := (scripts source).compile
  build source := (scripts source).build
  execute _ source := (scripts source).execute

theorem eq_of_lastCompiled {scripts : Path → Script} {source current : Path}
    (hlast : (toolchain scripts).LastCompiled source current) : current = source := by
  induction hlast with
  | compile hcompile => exact (congrArg Prod.snd hcompile).symm
  | build _ hbuild ih => exact (congrArg Prod.snd hbuild).symm.trans ih
  | execute _ hexecute ih => exact (congrArg Prod.snd hexecute).symm.trans ih

theorem toolchain_follows (scripts : Path → Script) :
    (toolchain scripts).Follows (results scripts) where
  compile_fst _ _ := rfl
  build_fst hlast := by
    cases eq_of_lastCompiled hlast
    rfl
  execute_fst _ hlast := by
    cases eq_of_lastCompiled hlast
    rfl

end Script

namespace Harness

variable {h : Harness σ} {h' : Harness τ} {results : StageResults}
  {files : Path → Except IoError Bytes}

theorem Follows.produce_fst (hh : h.Follows results files) {source : Path}
    {capture : Capture} {s t : σ} (hcompile : h.tools.compile source s = (.ok capture, t)) :
    (h.produce t).1 = results.produce source := by
  have hlast := Toolchain.LastCompiled.compile hcompile
  have hbuild := hh.tools.build_fst hlast
  rcases hb : h.tools.build t with ⟨fault | artifact, u⟩
  · rw [hb] at hbuild
    simp only [produce, hb, StageResults.produce, ← hbuild, Except.bind]
  · have hkept := hlast.build hb
    rw [hb] at hbuild
    simp only [produce, hb, StageResults.produce, ← hbuild, Except.bind,
      hh.tools.execute_fst artifact hkept]

theorem Follows.evaluate_fst_eq (hh : h.Follows results files) (test : Case) (s : σ) :
    (h.evaluate test s).1 = results.verdict files test.path := by
  have hread : h.expectation test s = Expectation.ofFile test.path (files test.path) := by
    rw [expectation, hh.contents]
  have hsignal : h.signal test s =
      (results.compile test.path).map fun capture => Signal.first? capture.lines := by
    rw [signal, hh.tools.compile_fst]
  rw [evaluate_fst_eq_judge, StageResults.verdict, ← hread, ← hsignal]
  apply judge_congr
  intro text _ hsilent
  rcases hcompile : h.tools.compile test.path s with ⟨fault | capture, t⟩
  · simp [signal, hcompile, Except.map] at hsilent
  · rw [ending, hcompile, hh.produce_fst hcompile]

theorem Follows.verdicts_eq (hh : h.Follows results files) (tests : List Case) (s : σ) :
    h.verdicts tests s = tests.map fun test => results.verdict files test.path := by
  induction tests generalizing s with
  | nil => rfl
  | cons test tests ih => rw [verdicts, hh.evaluate_fst_eq, ih, List.map_cons]

end Harness

namespace StageResults

variable (results : StageResults) (files : Path → Except IoError Bytes)

/-- The report that sources add up to. -/
def tally (sources : List Path) : Report :=
  Report.ofVerdicts (sources.map fun source => (source.text, results.verdict files source))

theorem tally_eq (sources : List Path) :
    results.tally files sources =
      ⟨sources.countP fun source => (results.verdict files source).isPass,
        sources.countP fun source => !(results.verdict files source).isPass,
        sources.filterMap fun source =>
          Report.messageOf? source.text (results.verdict files source)⟩ := by
  rw [tally, Report.ofVerdicts_eq, List.countP_map, List.countP_map, List.filterMap_map]
  rfl

end StageResults

namespace Harness

variable {h : Harness σ} {h' : Harness τ} {results : StageResults}
  {files : Path → Except IoError Bytes}

theorem Follows.run_fst_eq (hh : h.Follows results files) (suites : List Suite) (s : σ) :
    (h.run suites s).1 = results.tally files ((Corpus.cases suites).map Case.path) := by
  rw [run_fst, hh.verdicts_eq, StageResults.tally, List.zip_map', List.map_map]
  rfl

/-- The report on tests that are all evaluated from the same state. -/
def alone (h : Harness σ) (s : σ) (tests : List Case) : Report :=
  Report.ofVerdicts (tests.map fun test => (test.path.text, (h.evaluate test s).1))

theorem Follows.alone_eq (hh : h.Follows results files) (s : σ) (tests : List Case) :
    h.alone s tests = results.tally files (tests.map Case.path) := by
  rw [alone, StageResults.tally, List.map_map]
  congr 1
  apply List.map_congr_left
  intro test _
  rw [hh.evaluate_fst_eq]
  rfl

end Harness

/-- Where the sources of two lists balance, so do what they add up to. -/
theorem StageResults.tally_balance (results : StageResults) (files : Path → Except IoError Bytes)
    {xs ys removed added : List Path} (hperm : (ys ++ removed).Perm (xs ++ added)) :
    (results.tally files ys).passed + (results.tally files removed).passed =
        (results.tally files xs).passed + (results.tally files added).passed ∧
      (results.tally files ys).failed + (results.tally files removed).failed =
        (results.tally files xs).failed + (results.tally files added).failed ∧
      ((results.tally files ys).failures ++ (results.tally files removed).failures).Perm
        ((results.tally files xs).failures ++ (results.tally files added).failures) := by
  simp only [tally_eq, ← List.countP_append, ← List.filterMap_append]
  exact ⟨hperm.countP_eq _, hperm.countP_eq _, hperm.filterMap _⟩

namespace Harness

variable {h : Harness σ} {h' : Harness τ} {results : StageResults}
  {files : Path → Except IoError Bytes}

/-- Each test of a run has the verdict that it has alone, on any toolchain with the same results and
in any state of it.  So the report is what the tests contribute, in their order: other suites with
other tests differ by what was added and removed, and a second run gives the same report. -/
theorem run_isolated (hh : h.Follows results files) (hh' : h'.Follows results files)
    (suites : List Suite) (s : σ) (s' : τ) :
    h.verdicts (Corpus.cases suites) s =
        (Corpus.cases suites).map (fun test => (h'.evaluate test s').1) ∧
      (h.run suites s).1 = h'.alone s' (Corpus.cases suites) ∧
      (h.run suites s).1.failures = (Corpus.cases suites).filterMap (fun test =>
        Report.messageOf? test.path.text (h'.evaluate test s').1) ∧
      (∀ (others : List Suite) (t : σ) (removed added : List Case),
        ((Corpus.cases others).map Case.path ++ removed.map Case.path).Perm
          ((Corpus.cases suites).map Case.path ++ added.map Case.path) →
        (h.run others t).1.passed + (h'.alone s' removed).passed =
            (h.run suites s).1.passed + (h'.alone s' added).passed ∧
          (h.run others t).1.failed + (h'.alone s' removed).failed =
            (h.run suites s).1.failed + (h'.alone s' added).failed ∧
          ((h.run others t).1.failures ++ (h'.alone s' removed).failures).Perm
            ((h.run suites s).1.failures ++ (h'.alone s' added).failures)) ∧
      (h.run suites (h.run suites s).2).1 = (h.run suites s).1 := by
  refine ⟨?_, ?_, ?_, ?_, ?_⟩
  · rw [hh.verdicts_eq]
    exact List.map_congr_left fun test _ => (hh'.evaluate_fst_eq test s').symm
  · rw [hh.run_fst_eq, hh'.alone_eq]
  · rw [hh.run_fst_eq, StageResults.tally_eq, List.filterMap_map]
    simp only [hh'.evaluate_fst_eq]
    rfl
  · intro others t removed added hperm
    simp only [hh.run_fst_eq, hh'.alone_eq]
    exact results.tally_balance files hperm
  · rw [hh.run_fst_eq, hh.run_fst_eq]

/-- Two tests, one with a build that fails, in two orders and two groupings. -/
theorem run_isolated_regrouped :
    let scripts : Path → Script := fun source =>
      if source = ⟨"a.sc"⟩ then
        ⟨.ok ⟨[], some 0⟩, .error (.missingArtifact ⟨"a.out"⟩), .ok ⟨[], none⟩⟩
      else ⟨.ok ⟨["checked"], some 1⟩, .ok ⟨⟨"a.out"⟩, false⟩, .ok ⟨["7"], none⟩⟩
    let h : Harness Path := ⟨Script.toolchain scripts, fun _ _ => .ok [0x37]⟩
    let suites : List Suite := [⟨"x", [⟨⟨"a.sc"⟩, "x"⟩, ⟨⟨"b.sc"⟩, "x"⟩]⟩]
    let others : List Suite := [⟨"y", [⟨⟨"b.sc"⟩, "y"⟩]⟩, ⟨"z", [⟨⟨"a.sc"⟩, "z"⟩]⟩]
    h.Follows (Script.results scripts) (fun _ => .ok [0x37]) ∧
      (h.run others ⟨"c.sc"⟩).1.failures.Perm (h.run suites ⟨""⟩).1.failures := by
  intro scripts h suites others
  have hh : h.Follows (Script.results scripts) (fun _ => .ok [0x37]) :=
    ⟨Script.toolchain_follows scripts, fun _ _ => rfl⟩
  refine ⟨hh, ?_⟩
  have hbalance := (run_isolated hh hh suites ⟨""⟩ ⟨""⟩).2.2.2.1
  have hswap := hbalance others ⟨"c.sc"⟩ [] [] (List.Perm.swap _ _ [])
  simpa [alone, Report.ofVerdicts, Report.empty] using hswap.2.2

end Harness

end Conformance
