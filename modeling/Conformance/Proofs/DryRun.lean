import Conformance.Proofs.Outcome

/-!
# Listings and runs

A listing shows what a run goes through.  As long as the files of the corpus stay as they are, the
two find the same suites with the same tests, or fail alike, and a listing shows a fault for just
those tests that a run fails before any stage.
-/

namespace Conformance

namespace Corpus

/-- Two trees are the same where the tests below `top` are looked for. -/
structure Alike (t u : FileTree) (dir : Location) (top : Path) : Prop where
  list_top : u.list dir top = t.list dir top
  list_suite {names : List String} {suite : String} : t.list dir top = .ok names →
    suite ∈ names → isHidden suite = false →
      u.list dir (top.join suite) = t.list dir (top.join suite)
  isRegularFile {names files : List String} {suite file : String} : t.list dir top = .ok names →
    suite ∈ names → isHidden suite = false → t.list dir (top.join suite) = .ok files →
      file ∈ files → u.isRegularFile dir ((top.join suite).join file) =
        t.isRegularFile dir ((top.join suite).join file)

variable {t u : FileTree} {dir : Location} {root top : Path} {extension name : String}
  {names : List String}

theorem Alike.suiteOf?_eq (halike : Alike t u dir top) (hnames : t.list dir top = .ok names)
    (hname : name ∈ names) :
    suiteOf? u dir extension top name = suiteOf? t dir extension top name := by
  cases hhidden : isHidden name with
  | true => simp only [suiteOf?, hhidden, if_true]
  | false =>
      have hsuite := halike.list_suite hnames hname hhidden
      cases hlist : t.list dir (top.join name) with
      | error cause => simp only [suiteOf?, hsuite, hlist]
      | ok files =>
          have hcases : casesOf u dir extension name (top.join name) files =
              casesOf t dir extension name (top.join name) files := by
            rw [casesOf, casesOf, List.filter_congr fun file hfile => ?_]
            rw [halike.isRegularFile hnames hname hhidden hlist hfile]
          simp only [suiteOf?, hsuite, hlist, hcases]

theorem discover_eq_of_alike
    (halike : ∀ top, Path.absolute? dir.toPath root = some top → Alike t u dir top) :
    discover u dir root extension = discover t dir root extension := by
  cases habsolute : Path.absolute? dir.toPath root with
  | none => simp only [discover, habsolute]
  | some top =>
      have htop := halike top habsolute
      cases hlist : t.list dir top with
      | error cause => simp only [discover, habsolute, htop.list_top, hlist]
      | ok names =>
          have hsuites : names.filterMap (suiteOf? u dir extension top) =
              names.filterMap (suiteOf? t dir extension top) :=
            List.filterMap_congr fun name hname => htop.suiteOf?_eq hlist hname
          simp only [discover, habsolute, htop.list_top, hlist, hsuites]

end Corpus

namespace Listing

variable (contents : Path → Except IoError Bytes) (suites : List Suite)

/-- Each suite has a line with the number of its tests, and then a line for each of them. -/
theorem lines_ofSuites :
    (ofSuites contents suites).lines = suites.flatMap fun suite =>
      (suite.name ++ " (" ++ toString suite.cases.length ++ " tests)") ::
        suite.cases.map fun test => "  " ++ test.path.text ++ ": " ++
          ListedSuite.shown (Expectation.ofFile test.path (contents test.path)) := by
  simp [ofSuites, lines, ListedSuite.ofSuite, ListedSuite.lines, ListedSuite.headline,
    ListedSuite.testLine, List.flatMap_map, Function.comp_def]

/-- A listing is unsound just where one of its tests is shown with a fault. -/
theorem isSound_ofSuites_eq_false_iff :
    (ofSuites contents suites).isSound = false ↔ ∃ test ∈ Corpus.cases suites, ∃ fault,
      Expectation.ofFile test.path (contents test.path) = .error fault := by
  have hfault (read : Except Fault Expectation) :
      read.isOk = false ↔ ∃ fault, read = .error fault := by
    cases read <;> simp [Except.isOk, Except.toBool]
  have hsound : (ofSuites contents suites).isSound = (Corpus.cases suites).all fun test =>
      (Expectation.ofFile test.path (contents test.path)).isOk := by
    simp [ofSuites, isSound, ListedSuite.ofSuite, ListedSuite.isSound, Corpus.cases,
      List.all_flatMap, Function.comp_def]
  simp only [hsound, List.all_eq_false, Bool.not_eq_true, hfault]

end Listing

/-- What a listing has read of a test tells what comes of it when its turn comes: a fault means that
no stage is begun and that the test fails with the fault that is shown, anything else is what the
test is held to. -/
structure Harness.Foretells {σ : Type} (h : Harness σ) (stated : Except Fault Expectation)
    (test : Case) (s : σ) : Prop where
  no_stage : (∃ fault, stated = .error fault) ↔ (h.traced.evaluate test (s, [])).2.2 = []
  fault (fault : Fault) : stated = .error fault →
    ListedSuite.shown stated = "<" ++ fault.message ++ ">" ∧
      (h.evaluate test s).1 = .fail fault.message
  expectation (e : Expectation) : stated = .ok e →
    ListedSuite.shown stated = toString e ∧ h.expectation test s = .ok e

theorem Harness.foretells_expectation {σ : Type} (h : Harness σ) (test : Case) (s : σ) :
    h.Foretells (h.expectation test s) test s where
  no_stage := (h.traced_evaluate_calls_eq_nil_iff test s).symm
  fault fault hread := by
    rw [(Evaluates.unread hread).evaluate_eq, hread]
    exact ⟨rfl, rfl⟩
  expectation e hread := by
    rw [hread]
    exact ⟨rfl, rfl⟩

namespace Workplace

variable {σ : Type} {w : Workplace σ} {request : RunRequest} {settings : Settings} {fault : Fault}
  {suites : List Suite} {s s' : σ}

/-- What the file of a test states. -/
def stated (w : Workplace σ) (test : Case) (s : σ) : Except Fault Expectation :=
  Expectation.ofFile test.path (w.contents test.path s)

/-- The corpus that a listing from `s` looks at is that of a run from `s'`: the directories are the
same at the start of the run, and the file of each test when its turn comes. -/
structure SameCorpus (w : Workplace σ) (settings : Settings) (s s' : σ) : Prop where
  alike (top : Path) : Path.absolute? w.directory.toPath settings.testsDir = some top →
    Corpus.Alike (w.tree s) (w.tree s') w.directory top
  contents (suites : List Suite) : w.found settings s = .ok suites →
    ∀ done test rest, Corpus.cases suites = done ++ test :: rest →
      w.contents test.path ((w.harness settings).after done s') = w.contents test.path s

theorem SameCorpus.found_eq (hsame : w.SameCorpus settings s s') :
    w.found settings s' = w.found settings s :=
  Corpus.discover_eq_of_alike hsame.alike

theorem SameCorpus.foretells (hsame : w.SameCorpus settings s s')
    (hfound : w.found settings s = .ok suites) {done rest : List Case} {test : Case}
    (hturn : Corpus.cases suites = done ++ test :: rest) :
    (w.harness settings).Foretells (w.stated test s) test
      ((w.harness settings).after done s') := by
  have hstated : w.stated test s =
      (w.harness settings).expectation test ((w.harness settings).after done s') := by
    rw [stated, ← hsame.contents suites hfound done test rest hturn]
    rfl
  rw [hstated]
  exact Harness.foretells_expectation ..

theorem suite_eq_of_found (hfound : w.found settings s = .ok suites) {suite : Suite}
    (hsuite : suite ∈ suites) {test : Case} (htest : test ∈ suite.cases) :
    test.suite = suite.name := by
  obtain ⟨fault, hfault, _⟩ | ⟨_, _, suites', hok, hcorpus⟩ := Corpus.discover_cases (w.tree s)
    w.directory settings.testsDir settings.extension
  · cases hfound.symm.trans hfault
  · cases hfound.symm.trans hok
    obtain ⟨_, _, files, _, hcases, _⟩ := hcorpus.hasTests suite hsuite
    rw [hcases] at htest
    obtain ⟨file, _, rfl⟩ := List.mem_map.mp htest
    rfl

theorem listTests_of_error (hfound : w.found request.settings s = .error fault) :
    w.listTests request.corpus s = .ofFault fault := by
  have hsuites : w.suites request.corpus.testsDir
      (Settings.normalExtension request.corpus.extension) s = .error fault := hfound
  simp only [listTests, hsuites]

theorem listTests_of_ok (hfound : w.found request.settings s = .ok suites) :
    w.listTests request.corpus s =
      .ofOutput (Listing.ofSuites (fun path => w.contents path s) suites).isSound
        (Report.unlines (Listing.ofSuites (fun path => w.contents path s) suites).lines) := by
  have hsuites : w.suites request.corpus.testsDir
      (Settings.normalExtension request.corpus.extension) s = .ok suites := hfound
  simp only [listTests, hsuites]

theorem sameCorpus_desk (script : Script) (settings : Settings) (s s' : Path) :
    (desk script).SameCorpus settings s s' where
  alike _ _ := ⟨rfl, fun _ _ _ => rfl, fun _ _ _ _ _ => rfl⟩
  contents _ _ _ _ _ _ := rfl

end Workplace

end Conformance
