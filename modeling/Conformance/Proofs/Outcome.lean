import Conformance.Program
import Conformance.Proofs.Discovery
import Conformance.Proofs.Tally
import Conformance.Toolchain.Scripted

/-!
# The outcome of a run

A run whose suites cannot be found ends at once, with nothing printed, no stage begun and no file
changed.  Any other run goes through all of its tests and prints the report on them, whatever its
stages give, and its code tells whether all of them passed.
-/

namespace Conformance

namespace Outcome

theorem code_ofOutput (success : Bool) (output : String) :
    (ofOutput success output).code = if success then 0 else 1 := rfl

theorem code_ofOutput_eq_zero_iff {success : Bool} {output : String} :
    (ofOutput success output).code = 0 ↔ success = true := by
  cases success <;> simp [code_ofOutput]

theorem code_ofOutput_eq_one_iff {success : Bool} {output : String} :
    (ofOutput success output).code = 1 ↔ success = false := by
  cases success <;> simp [code_ofOutput]

theorem code_ofFault {fault : Fault} (hfatal : fault.isFatal = true) :
    (ofFault fault).code = 2 := by
  rw [ofFault, if_pos hfatal]
  rfl

end Outcome

namespace Workplace

variable {σ : Type} {w : Workplace σ} {settings : Settings} {env : Environment}
  {request : RunRequest} {fault : Fault} {suites : List Suite} {s s' : σ}

/-- The suites that the settings name. -/
def found (w : Workplace σ) (settings : Settings) (s : σ) : Except Fault (List Suite) :=
  w.suites settings.testsDir settings.extension s

/-- The same workplace with a record of the stages begun, oldest first. -/
def traced (w : Workplace σ) : Workplace (σ × List StageCall) where
  tree s := w.tree s.1
  directory := w.directory
  toolchain settings := (w.toolchain settings).traced
  stop? s := w.stop? s.1
  isTerminal := w.isTerminal

/-- Each stage of the run comes to an end with a result or a fault: the program has not come to a stop when
all tests have had their turn. -/
def StagesReturn (w : Workplace σ) (settings : Settings) (s : σ) : Prop :=
  ∀ suites, w.found settings s = .ok suites →
    w.stop? ((w.harness settings).after (Corpus.cases suites) s) = none

/-- The suites are found, unless there is a fault that ends the run. -/
theorem isFatal_of_found (hfound : w.found settings s = .error fault) : fault.isFatal = true := by
  obtain ⟨fault', hfault, hfatal⟩ | ⟨_, _, suites, hok, _⟩ := Corpus.discover_cases (w.tree s)
    w.directory settings.testsDir settings.extension
  · cases hfound.symm.trans hfault
    exact hfatal
  · cases hfound.symm.trans hok

theorem runHarness_of_error (hfound : w.found settings s = .error fault) :
    w.runHarness settings s = .returned (.error fault) s := by
  rw [found] at hfound
  simp only [runHarness, hfound]

theorem runHarness_of_ok (hfound : w.found settings s = .ok suites) :
    w.runHarness settings s = w.reply ((w.harness settings).run suites s) := by
  rw [found] at hfound
  simp only [runHarness, hfound]

theorem runHarness_of_return (hfound : w.found settings s = .ok suites)
    (hreturn : w.StagesReturn settings s) :
    w.runHarness settings s = .returned (.ok ((w.harness settings).run suites s).1)
      ((w.harness settings).run suites s).2 := by
  have hstop := hreturn suites hfound
  rw [← Harness.run_snd] at hstop
  rw [runHarness_of_ok hfound, reply, hstop]

/-- No fault of a test comes out of the harness. -/
theorem runHarness_eq_error_iff : w.runHarness settings s = .returned (.error fault) s' ↔
    w.found settings s = .error fault ∧ s' = s := by
  cases hfound : w.found settings s with
  | error cause =>
      rw [runHarness_of_error hfound]
      simp [eq_comm]
  | ok suites =>
      rw [runHarness_of_ok hfound, reply]
      split <;> simp

theorem runTests_of_error (hfound : w.found request.settings s = .error fault) :
    w.runTests env request s = (some (.ofFault fault), s) := by
  simp only [runTests, runHarness_of_error hfound]

theorem runTests_of_ok (hfound : w.found request.settings s = .ok suites)
    (hreturn : w.StagesReturn request.settings s) :
    w.runTests env request s =
      (some (.ofOutput ((w.harness request.settings).run suites s).1.isSuccess
        (((w.harness request.settings).run suites s).1.render request.format
          (w.showsColor env request.color))),
        ((w.harness request.settings).run suites s).2) := by
  simp only [runTests, runHarness_of_return hfound hreturn]

theorem code_runTests_eq_two_iff :
    (w.runTests env request s).1.map Outcome.code = some 2 ↔
      ∃ fault, w.found request.settings s = .error fault := by
  cases hfound : w.found request.settings s with
  | error fault => simp [runTests_of_error hfound, Outcome.code_ofFault (isFatal_of_found hfound)]
  | ok suites =>
      rw [runTests, runHarness_of_ok hfound, reply]
      rcases w.stop? ((w.harness request.settings).run suites s).2 with _ | how
      · simp only [Option.map_some, Outcome.code_ofOutput]
        split <;> simp
      · cases how <;> simp [Outcome.aborted, Outcome.abortCode]

/-- The code depends on the settings alone, not on how the report is to be shown. -/
theorem code_runTests_congr (w : Workplace σ) {other : RunRequest}
    (hsettings : other.settings = request.settings) (isTerminal : Bool) (env env' : Environment)
    (s : σ) : (({ w with isTerminal } : Workplace σ).runTests env' other s).1.map Outcome.code =
      (w.runTests env request s).1.map Outcome.code := by
  have hharness : ({ w with isTerminal } : Workplace σ).runHarness other.settings s =
      w.runHarness request.settings s := by
    rw [hsettings]
    rfl
  rw [runTests, runTests, hharness]
  rcases w.runHarness request.settings s with ⟨fault | report, t⟩ | ⟨_ | _, t⟩ <;> rfl

/-! ## A desk -/

section Desk

variable (script : Script) (s : Path)

/-- The files on the desk: one suite of one test. -/
def deskTree : FileTree :=
  ⟨[⟨["tests"], .directory, ⟨3, 0o755, 0, 0, 0⟩⟩,
    ⟨["tests", "basic"], .directory, ⟨4, 0o755, 0, 0, 0⟩⟩,
    ⟨["tests", "basic", "a.sc"], .file (.bytes [0x37]), ⟨5, 0o644, 0, 0, 0⟩⟩], 6, 0⟩

/-- A workplace whose toolchain follows a script. -/
def desk : Workplace Path where
  tree _ := deskTree
  directory := []
  toolchain _ := Script.toolchain fun _ => script
  stop? _ := none
  isTerminal := false

/-- The test on the desk. -/
def deskCase : Case := ⟨⟨"/tests/basic/a.sc"⟩, "basic"⟩

theorem lists_desk : ((desk script).tree s).Lists [] ⟨"/tests"⟩ ["tests"] := ⟨rfl, rfl⟩

theorem lists_deskSuite :
    ((desk script).tree s).Lists [] ⟨"/tests/basic"⟩ ["tests", "basic"] := ⟨rfl, rfl⟩

theorem lookup_deskCase :
    ((desk script).tree s).lookup [] deskCase.path true =
      .ok (["tests", "basic", "a.sc"], .file (.bytes [0x37])) := rfl

theorem suites_desk : (desk script).suites ⟨"tests"⟩ "sc" s = .ok [⟨"basic", [deskCase]⟩] := by
  have habsolute : Path.absolute? (Location.toPath []) ⟨"tests"⟩ = some ⟨"/tests"⟩ := by decide
  have hnames : ((desk script).tree s).names ["tests"] = ["basic"] := by
    simp [desk, deskTree, FileTree.names, FileTree.nameBelow, List.eraseDups_cons]
  have hfiles : ((desk script).tree s).names ["tests", "basic"] = ["a.sc"] := by
    simp [desk, deskTree, FileTree.names, FileTree.nameBelow, List.eraseDups_cons]
  have hsuite : Corpus.suiteOf? ((desk script).tree s) [] "sc" ⟨"/tests"⟩ "basic" =
      some ⟨"basic", [deskCase]⟩ := by
    have hlist : ((desk script).tree s).list [] ⟨"/tests/basic"⟩ = .ok ["a.sc"] :=
      FileTree.list_eq_ok_iff.mpr ⟨_, lists_deskSuite script s, hfiles⟩
    have hregular : ((desk script).tree s).isRegularFile [] deskCase.path = true := by
      simp only [FileTree.isRegularFile, lookup_deskCase]
      rfl
    have hextension : extension? "a.sc" = some "sc" := by decide
    have hjoin : Path.join ⟨"/tests"⟩ "basic" = ⟨"/tests/basic"⟩ := by decide
    have hjoinFile : Path.join ⟨"/tests/basic"⟩ "a.sc" = deskCase.path := by decide
    have hhidden : Corpus.isHidden "basic" = false := by decide
    have hcase : (⟨deskCase.path, "basic"⟩ : Case) = deskCase := rfl
    simp [Corpus.suiteOf?, Corpus.casesOf, hhidden, hjoin, hlist, hjoinFile, hregular, hextension,
      hcase]
  have hdiscover : (desk script).suites ⟨"tests"⟩ "sc" s =
      .ok ((((desk script).tree s).names ["tests"]).filterMap
        (Corpus.suiteOf? ((desk script).tree s) [] "sc" ⟨"/tests"⟩)) :=
    Corpus.discover_of_lists habsolute (lists_desk script s)
  rw [hdiscover, hnames]
  simp [hsuite]

theorem contents_deskCase : (desk script).contents deskCase.path s = .ok [0x37] := by
  have hread : ((desk script).tree s).mayRead ["tests", "basic", "a.sc"] = true := rfl
  have hlookup : ((desk script).tree s).lookup (desk script).directory deskCase.path true =
      .ok (["tests", "basic", "a.sc"], .file (.bytes [0x37])) := lookup_deskCase script s
  simp only [contents, FileTree.read, hlookup, bind, Except.bind, hread]
  rfl

/-- A script in which the source compiles and the program prints these lines. -/
def deskScript (lines : List String) : Script :=
  ⟨.ok ⟨[], some 0⟩, .ok ⟨⟨"./a.out"⟩, true⟩, .ok ⟨lines, some 0⟩⟩

/-- The request for a run of the tests on the desk. -/
def deskRequest (extension : String) : RunRequest :=
  ⟨⟨⟨"tests"⟩, extension⟩, Settings.standard.compiler, Settings.standard.build,
    Settings.standard.executable, Settings.standardSeconds, .auto, .text⟩

theorem found_desk {extension : String} (hextension : Settings.normalExtension extension = "sc") :
    (desk script).found (deskRequest extension).settings s = .ok [⟨"basic", [deskCase]⟩] := by
  have hsettings : (deskRequest extension).settings.extension = "sc" := hextension
  rw [found, hsettings]
  exact suites_desk script s

theorem expectation_deskCase (settings : Settings) :
    ((desk script).harness settings).expectation deskCase s = .ok (.value "7") := by
  have hcontents : ((desk script).harness settings).contents deskCase.path s = .ok [0x37] :=
    contents_deskCase ..
  rw [Harness.expectation, hcontents]
  decide

theorem evaluate_deskCase (settings : Settings) (lines : List String) :
    ((desk (deskScript lines)).harness settings).evaluate deskCase s =
      (.ofValue "7" lines, deskCase.path) := by
  have hread := expectation_deskCase (deskScript lines) s settings
  exact (Harness.Evaluates.judgedValue hread rfl rfl rfl rfl).evaluate_eq

/-- The run of the one test on the desk. -/
theorem run_desk (settings : Settings) (lines : List String) :
    ((desk (deskScript lines)).harness settings).run [⟨"basic", [deskCase]⟩] s =
      (Report.empty.record deskCase.path.text (.ofValue "7" lines), deskCase.path) := by
  change ((desk (deskScript lines)).harness settings).step (Report.empty, s) deskCase = _
  rw [Harness.step, evaluate_deskCase]

theorem allPass_desk (settings : Settings) (lines : List String) :
    ((desk (deskScript lines)).harness settings).AllPass (Corpus.cases [⟨"basic", [deskCase]⟩]) s ↔
      Verdict.ofValue "7" lines = .pass := by
  have hcases : Corpus.cases [⟨"basic", [deskCase]⟩] = [deskCase] := rfl
  rw [hcases, Harness.allPass_cons, evaluate_deskCase]
  exact and_iff_left (Harness.allPass_nil _ _)

end Desk

end Workplace

namespace Program

variable {σ : Type} {w : Workplace σ} {env : Environment} {args : List String} {verbose : Bool}
  {request : RunRequest}

theorem run_of_parse (hparse : Request.parse env args = .ok (.run verbose request)) (s : σ) :
    run w env args s = w.runTests env request s := by
  simp only [run, hparse, Workplace.perform]

/-- The code is that of an unreadable corpus just where the suites cannot be found, and then nothing
has happened.  Otherwise every test has had its turn, the report on all of them is printed, in colours if
these are asked for, or on a terminal unless the environment forbids them, and the code says whether all
tests passed.  No fault but that of the corpus comes out of the harness. -/
theorem run_outcome (hparse : Request.parse env args = .ok (.run verbose request)) (s : σ) :
    ((run w env args s).1.map Outcome.code = some 2 ↔
      ∃ fault, w.found request.settings s = .error fault) ∧
    (∀ fault, w.found request.settings s = .error fault →
      (run w env args s).1.map Outcome.output = some "" ∧
        (run w.traced env args (s, [])).2 = (s, [])) ∧
    (∀ suites, w.found request.settings s = .ok suites → w.StagesReturn request.settings s →
      ∃ report outcome, w.runHarness request.settings s =
          .returned (.ok report) ((w.harness request.settings).after (Corpus.cases suites) s) ∧
        report.total = (Corpus.cases suites).length ∧
        run w env args s =
          (some outcome, (w.harness request.settings).after (Corpus.cases suites) s) ∧
        outcome.output = report.render request.format
          (request.color.isEnabled w.isTerminal (env.lookup "NO_COLOR").isSome) ∧
        (outcome.code = 0 ↔ (w.harness request.settings).AllPass (Corpus.cases suites) s) ∧
        (outcome.code = 1 ↔ ¬ (w.harness request.settings).AllPass (Corpus.cases suites) s)) ∧
    (∀ isTerminal env' args' verbose' format color,
      Request.parse env' args' =
          .ok (.run verbose' { request with format := format, color := color }) →
        (run { w with isTerminal } env' args' s).1.map Outcome.code =
          (run w env args s).1.map Outcome.code) ∧
    ∀ fault s', w.runHarness request.settings s = .returned (.error fault) s' ↔
      w.found request.settings s = .error fault ∧ s' = s := by
  rw [run_of_parse hparse]
  refine ⟨Workplace.code_runTests_eq_two_iff, ?_, ?_, ?_, fun fault s' =>
    Workplace.runHarness_eq_error_iff⟩
  · intro fault hfound
    have htraced : w.traced.found request.settings (s, []) = .error fault := hfound
    rw [run_of_parse hparse, Workplace.runTests_of_error htraced,
      Workplace.runTests_of_error hfound]
    exact ⟨rfl, rfl⟩
  · intro suites hfound hreturn
    rw [Workplace.runHarness_of_return hfound hreturn, Workplace.runTests_of_ok hfound hreturn,
      Harness.run_snd]
    refine ⟨_, _, rfl, Harness.total_run .., rfl, rfl, ?_, ?_⟩
    · rw [Outcome.code_ofOutput_eq_zero_iff, Harness.isSuccess_run]
    · rw [Outcome.code_ofOutput_eq_one_iff, ← Bool.not_eq_true, Harness.isSuccess_run]
  · intro isTerminal env' args' verbose' format color hparse'
    rw [run_of_parse hparse']
    have hsettings : ({ request with format := format, color := color } : RunRequest).settings =
        request.settings := rfl
    exact w.code_runTests_congr hsettings isTerminal env env' s

/-- The test on the desk passes with one output and fails with another. -/
theorem run_outcome_desk :
    (run (Workplace.desk (Workplace.deskScript ["7"])) [] ["tests"] ⟨""⟩).1.map Outcome.code =
        some 0 ∧
      (run (Workplace.desk (Workplace.deskScript ["8"])) [] ["tests"] ⟨""⟩).1.map Outcome.code =
        some 1 := by
  have hparse : Request.parse [] ["tests"] = .ok (.run false (Workplace.deskRequest "sc")) := rfl
  have hend (lines : List String) :=
    (run_outcome (w := Workplace.desk (Workplace.deskScript lines)) hparse ⟨""⟩).2.2.1 _
      (Workplace.found_desk _ _ (by decide)) fun _ _ => rfl
  obtain ⟨_, _, _, _, hseven, _, hpass, _⟩ := hend ["7"]
  obtain ⟨_, _, _, _, height, _, _, hfail⟩ := hend ["8"]
  rw [hseven, height]
  refine ⟨congrArg some (hpass.mpr ?_), congrArg some (hfail.mpr ?_)⟩
  · rw [Workplace.allPass_desk]
    decide
  · rw [Workplace.allPass_desk]
    decide

end Program

end Conformance
