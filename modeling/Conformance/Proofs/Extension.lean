import Conformance.Proofs.DryRun

/-!
# Files that carry the extension

A setting may name any text as the extension of the tests.  What a file name is asked for, though, is
only what follows its last dot.  So the files that end in a dot and the extension are tests just if
there is no dot in the extension itself; with an extension such as `tar.gz` no file is a test, and a
run that finds no test passes.
-/

namespace Conformance

theorem hasExtension_iff_notMem {name extension : String} {stem : List Char}
    (hname : name.toList = stem ++ '.' :: extension.toList) (hstem : stem ≠ []) :
    HasExtension name extension ↔ '.' ∉ extension.toList := by
  constructor
  · rintro ⟨_, _, _, hdot⟩
    exact hdot
  · intro hdot
    exact ⟨stem, hstem, hname, hdot⟩

theorem Path.join_inj {p : Path} {a b : String} : p.join a = p.join b ↔ a = b := by
  unfold join
  split <;> simp only [Path.mk.injEq, String.append_right_inj]

namespace Corpus

open FileTree

variable {t : FileTree} {dir loc sub : Location} {top : Path} {extension suite file : String}
  {suites : List Suite}

/-- In a directory that is a suite the tests are the files that have the extension. -/
theorem IsCorpus.mem_cases_iff (hcorpus : IsCorpus t dir extension top loc suites)
    (hfound : (t.find (loc ++ [suite])).isSome) (hhidden : suite.toList.head? ≠ some '.')
    (hsub : t.Lists dir (top.join suite) sub) :
    ⟨(top.join suite).join file, suite⟩ ∈ cases suites ↔ (t.find (sub ++ [file])).isSome ∧
      t.isRegularFile dir ((top.join suite).join file) = true ∧ HasExtension file extension := by
  rw [cases, List.mem_flatMap]
  constructor
  · rintro ⟨s, hs, hcase⟩
    obtain ⟨sub', hsub', files, _, hcases, hfiles⟩ := hcorpus.hasTests s hs
    rw [hcases, List.mem_map] at hcase
    obtain ⟨other, hother, heq⟩ := hcase
    obtain ⟨hpath, rfl⟩ := Case.mk.injEq .. ▸ heq
    obtain rfl := hsub'.unique hsub
    obtain rfl := Path.join_inj.mp hpath
    exact (hfiles other).mp hother
  · intro hfile
    have hname := (hcorpus.mem_names suite).mpr ⟨hfound, hhidden, sub, hsub⟩
    obtain ⟨s, hs, rfl⟩ := List.mem_map.mp hname
    obtain ⟨sub', hsub', files, _, hcases, hfiles⟩ := hcorpus.hasTests s hs
    obtain rfl := hsub'.unique hsub
    refine ⟨s, hs, ?_⟩
    rw [hcases]
    exact List.mem_map_of_mem ((hfiles file).mpr hfile)

theorem IsCorpus.no_tests (hcorpus : IsCorpus t dir extension top loc suites)
    (hdot : '.' ∈ extension.toList) : ∀ s ∈ suites, s.cases = [] := by
  intro s hs
  obtain ⟨_, _, files, _, hcases, hfiles⟩ := hcorpus.hasTests s hs
  have hnone : files = [] := by
    refine List.eq_nil_iff_forall_not_mem.mpr fun file hfile => ?_
    obtain ⟨_, _, _, _, _, hnot⟩ := (hfiles file).mp hfile
    exact hnot hdot
  rw [hcases, hnone, List.map_nil]

end Corpus

namespace Workplace

variable {σ : Type} {w : Workplace σ} {env : Environment} {request : RunRequest}
  {suites : List Suite} {s : σ}

/-- A run of suites without tests begins no stage, and passes. -/
theorem runTests_of_empty (hfound : w.found request.settings s = .ok suites)
    (hempty : ∀ suite ∈ suites, suite.cases = []) (hgoes : w.stop? s = none) :
    w.runTests env request s =
      (some (.ofOutput true (Report.empty.render request.format (w.showsColor env request.color))),
        s) := by
  have hcases : Corpus.cases suites = [] := List.flatMap_eq_nil_iff.mpr hempty
  have hreturn : w.StagesReturn request.settings s := by
    intro suites' hfound'
    obtain rfl := Except.ok.inj (hfound.symm.trans hfound')
    rw [hcases]
    exact hgoes
  rw [runTests_of_ok hfound hreturn, Harness.run, hcases]
  rfl

/-- A listing of suites without tests shows a line for each suite, and nothing wrong. -/
theorem listTests_of_empty (hfound : w.found request.settings s = .ok suites)
    (hempty : ∀ suite ∈ suites, suite.cases = []) :
    w.listTests request.corpus s =
      .ofOutput true (Report.unlines (suites.map fun suite => suite.name ++ " (0 tests)")) := by
  have hsound : (Listing.ofSuites (fun path => w.contents path s) suites).isSound = true := by
    rw [← Bool.not_eq_false, Listing.isSound_ofSuites_eq_false_iff,
      show Corpus.cases suites = [] from List.flatMap_eq_nil_iff.mpr hempty]
    simp
  have hlines : (Listing.ofSuites (fun path => w.contents path s) suites).lines =
      suites.map fun suite => suite.name ++ " (0 tests)" := by
    rw [Listing.lines_ofSuites, List.map_eq_flatMap]
    refine List.flatMap_congr fun suite hsuite => ?_
    rw [hempty suite hsuite, List.map_nil, List.length_nil, String.append_assoc,
      String.append_assoc]
    rfl
  rw [listTests_of_ok hfound, hsound, hlines]

/-- A run and a listing of a corpus that can be read go through the same tests.  A regular file in a
suite that ends in a dot and the extension is one of them just if the extension has no dot in it.
With such a dot there is no test at all, and both are well. -/
theorem mem_found_cases_iff (w : Workplace σ) (env : Environment) (request : RunRequest) (s : σ)
    {top : Path} {loc : Location}
    (htop : Path.absolute? w.directory.toPath request.corpus.testsDir = some top)
    (hloc : (w.tree s).Lists w.directory top loc) :
    let t := w.tree s
    let extension := Settings.normalExtension request.corpus.extension
    ∃ suites, w.found request.settings s = .ok suites ∧
      w.runHarness request.settings s = w.reply ((w.harness request.settings).run suites s) ∧
      (w.listTests request.corpus s).output =
        Report.unlines (Listing.ofSuites (fun path => w.contents path s) suites).lines ∧
      (∀ suite sub file stem, (t.find (loc ++ [suite])).isSome → suite.toList.head? ≠ some '.' →
        t.Lists w.directory (top.join suite) sub → (t.find (sub ++ [file])).isSome →
        t.isRegularFile w.directory ((top.join suite).join file) = true →
        file.toList = stem ++ '.' :: extension.toList → stem ≠ [] →
        (⟨(top.join suite).join file, suite⟩ ∈ Corpus.cases suites ↔ '.' ∉ extension.toList)) ∧
      ('.' ∈ extension.toList → Corpus.cases suites = [] ∧
        (w.stop? s = none → w.runTests env request s =
          (some (.ofOutput true
            (Report.empty.render request.format (w.showsColor env request.color))), s)) ∧
        w.listTests request.corpus s =
          .ofOutput true (Report.unlines (suites.map fun suite => suite.name ++ " (0 tests)"))) := by
  intro t extension
  have hcorpus := Corpus.isCorpus_filterMap t w.directory extension top loc
  have hfound : w.found request.settings s =
      .ok ((t.names loc).filterMap (Corpus.suiteOf? t w.directory extension top)) :=
    Corpus.discover_of_lists htop hloc
  refine ⟨_, hfound, runHarness_of_ok hfound, ?_, ?_, fun hdot => ?_⟩
  · rw [listTests_of_ok hfound]
    rfl
  · intro suite sub file stem hsuite hhidden hsub hfile hregular hname hstem
    rw [hcorpus.mem_cases_iff hsuite hhidden hsub, hasExtension_iff_notMem hname hstem]
    simp only [hfile, hregular, true_and]
  · have hempty := hcorpus.no_tests hdot
    exact ⟨List.flatMap_eq_nil_iff.mpr hempty, runTests_of_empty hfound hempty,
      listTests_of_empty hfound hempty⟩

/-- The dots before an extension do not count, so the test on the desk is found. -/
theorem mem_found_cases_desk :
    ∃ suites, (desk (deskScript ["7"])).found (deskRequest "..sc").settings ⟨""⟩ = .ok suites ∧
      deskCase ∈ Corpus.cases suites := by
  let w := desk (deskScript ["7"])
  have htop : Path.absolute? w.directory.toPath (deskRequest "..sc").corpus.testsDir =
      some ⟨"/tests"⟩ := by decide
  have hregular : (w.tree ⟨""⟩).isRegularFile [] deskCase.path = true := by
    simp only [FileTree.isRegularFile, w, lookup_deskCase]
    rfl
  obtain ⟨suites, hfound, _, _, hiff, _⟩ :=
    mem_found_cases_iff w [] (deskRequest "..sc") ⟨""⟩ htop (lists_desk ..)
  refine ⟨suites, hfound, ?_⟩
  exact (hiff "basic" ["tests", "basic"] "a.sc" ['a'] (by decide) (by decide)
    (lists_deskSuite ..) (by decide) hregular (by decide) (by decide)).mpr (by decide)

/-- The desk with an archive in place of the test. -/
def archiveDesk (script : Script) : Workplace Path :=
  { desk script with
    tree := fun _ => ⟨[⟨["tests"], .directory, ⟨3, 0o755, 0, 0, 0⟩⟩,
      ⟨["tests", "basic"], .directory, ⟨4, 0o755, 0, 0, 0⟩⟩,
      ⟨["tests", "basic", "a.tar.gz"], .file (.bytes [0x37]), ⟨5, 0o644, 0, 0, 0⟩⟩], 6, 0⟩ }

section ArchiveDesk

variable (script : Script) (s : Path)

theorem lists_archiveDesk : ((archiveDesk script).tree s).Lists [] ⟨"/tests"⟩ ["tests"] := ⟨rfl, rfl⟩

theorem lists_archiveSuite :
    ((archiveDesk script).tree s).Lists [] ⟨"/tests/basic"⟩ ["tests", "basic"] := ⟨rfl, rfl⟩

theorem isRegularFile_archive :
    ((archiveDesk script).tree s).isRegularFile [] ⟨"/tests/basic/a.tar.gz"⟩ = true := rfl

theorem names_archiveDesk : ((archiveDesk script).tree s).names ["tests"] = ["basic"] := by
  simp [archiveDesk, FileTree.names, FileTree.nameBelow, List.eraseDups_cons]

theorem found_archiveDesk :
    (archiveDesk script).found (deskRequest "tar.gz").settings s = .ok [⟨"basic", []⟩] := by
  have htop : Path.absolute? (Location.toPath []) ⟨"tests"⟩ = some ⟨"/tests"⟩ := by decide
  have hsuite : Corpus.suiteOf? ((archiveDesk script).tree s) [] "tar.gz" ⟨"/tests"⟩ "basic" =
      some ⟨"basic", []⟩ := by
    have hjoin : Path.join ⟨"/tests"⟩ "basic" = ⟨"/tests/basic"⟩ := by decide
    refine Corpus.suiteOf?_eq_some_iff.mpr ⟨rfl, by decide, ["tests", "basic"], ?_, ?_⟩
    · rw [hjoin]
      exact lists_archiveSuite script s
    · refine ⟨[], .nil, rfl, fun file => iff_of_false (List.not_mem_nil) ?_⟩
      rintro ⟨_, _, _, _, _, hdot⟩
      exact absurd (by decide) hdot
  have hfound : (archiveDesk script).found (deskRequest "tar.gz").settings s =
      .ok ((((archiveDesk script).tree s).names ["tests"]).filterMap
        (Corpus.suiteOf? ((archiveDesk script).tree s) [] "tar.gz" ⟨"/tests"⟩)) :=
    Corpus.discover_of_lists htop (lists_archiveDesk script s)
  rw [hfound, names_archiveDesk]
  simp [hsuite]

end ArchiveDesk

/-- A regular file in the one suite is named by the extension after a dot.  Neither the run nor the
listing finds it, and neither says so. -/
theorem archive_not_found :
    let w := archiveDesk (deskScript ["7"])
    let t := w.tree ⟨""⟩
    t.Lists [] ⟨"/tests/basic"⟩ ["tests", "basic"] ∧
      (t.find ["tests", "basic", "a.tar.gz"]).isSome ∧
      t.isRegularFile [] ⟨"/tests/basic/a.tar.gz"⟩ = true ∧
      "a.tar.gz".toList = ['a'] ++ '.' :: (Settings.normalExtension "tar.gz").toList ∧
      w.found (deskRequest "tar.gz").settings ⟨""⟩ = .ok [⟨"basic", []⟩] ∧
      (Program.run w [] ["tests", "--extension", "tar.gz"] ⟨""⟩).1 =
        some ⟨0, "0 passed\n0 failed\n", none⟩ ∧
      (Program.run w [] ["list", "--extension", "tar.gz"] ⟨""⟩).1 =
        some ⟨0, "basic (0 tests)\n", none⟩ := by
  intro w t
  have hfound := found_archiveDesk (deskScript ["7"]) ⟨""⟩
  have hempty : ∀ suite ∈ [(⟨"basic", []⟩ : Suite)], suite.cases = [] := by decide
  have hrun : Request.parse [] ["tests", "--extension", "tar.gz"] =
      .ok (.run false (deskRequest "tar.gz")) := rfl
  have hlist : Request.parse [] ["list", "--extension", "tar.gz"] =
      .ok (.list false (deskRequest "tar.gz").corpus) := rfl
  refine ⟨lists_archiveSuite .., by decide, isRegularFile_archive .., by decide, hfound, ?_, ?_⟩
  · rw [Program.run_of_parse hrun, runTests_of_empty hfound hempty rfl]
    decide
  · have hlisted := listTests_of_empty hfound hempty
    simp only [Program.run, hlist, perform]
    exact congrArg some (hlisted.trans (by decide))

end Workplace

end Conformance
