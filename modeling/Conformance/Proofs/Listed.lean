import Conformance.Proofs.Fallback

/-!
# Listing in place of running

The word for the listing in front of the arguments asks for the tests of the same corpus that a run
of the arguments alone goes through.  Each of the two reads the arguments in its own scope and fills
the open slots from the environment.  The listing looks at the variables of the run as well, as if
no argument were given; so an empty directory in the environment, which a run with a directory does
not look at, is a fault there.
-/

namespace Conformance

namespace Filled

variable {f g : Filled} {env : Environment} {slots slots' : List Slot}

theorem Accepts.subset (h : Accepts env f slots) (hsub : slots' ⊆ slots) : Accepts env f slots' :=
  fun slot hslot => h slot (hsub hslot)

theorem Accepts.of_nil (h : Accepts env [] slots) (f : Filled) : Accepts env f slots :=
  fun slot hslot _ => h slot hslot rfl

/-- Two fillings that agree in the slots of a listing ask for the same listing. -/
theorem corpusRequest_congr
    (h : ∀ slot, Scope.admits .list slot = true → f.text? slot = g.text? slot) :
    f.isVerbose = g.isVerbose ∧ f.corpusRequest = g.corpusRequest := by
  have hverbose := h .verbose rfl
  have htestsDir := h .testsDir rfl
  have hextension := h .extension rfl
  constructor
  · rw [isVerbose, isVerbose, has_eq_isSome, has_eq_isSome, hverbose]
  · simp only [corpusRequest, testsDir, extension, htestsDir, hextension]

/-- The listing, once the environment has filled what the arguments have left open. -/
def finishList (env : Environment) (f : Filled) : Except ArgumentError Request :=
  (f.addEnvironment env Slot.ofCorpus).bind fun g =>
    (Filled.addEnvironment env [] Slot.ofRun).map fun _ => .list g.isVerbose g.corpusRequest

/-- If the variables of a run are good whatever the arguments are, a run and a listing ask for the
tests of the same corpus. -/
theorem finish_of_accepts (h : Accepts env [] Slot.ofRun) (f : Filled) : ∃ verbose r,
    f.finish env = .ok (.run verbose r) ∧ f.finishList env = .ok (.list verbose r.corpus) := by
  obtain ⟨g, hadd, hg⟩ := exists_addEnvironment (h.of_nil f)
  have hcorpus : Slot.ofCorpus ⊆ Slot.ofRun := by decide
  obtain ⟨g', hadd', hg'⟩ := exists_addEnvironment ((h.of_nil f).subset hcorpus)
  obtain ⟨g₀, hadd₀, -⟩ := exists_addEnvironment h
  refine ⟨g.isVerbose, g.runRequest, by rw [finish, hadd]; rfl, ?_⟩
  have hslots : ∀ slot, Scope.admits .list slot = true →
      (slot ∈ Slot.ofCorpus ↔ slot ∈ Slot.ofRun) := by
    intro slot hslot
    cases slot <;> first | decide | cases hslot
  have hsame : g'.isVerbose = g.isVerbose ∧ g'.corpusRequest = g.corpusRequest :=
    corpusRequest_congr fun slot hslot => by simp only [hg, hg', hslots slot hslot]
  rw [finishList, hadd', hadd₀]
  exact congrArg Except.ok (congrArg₂ Request.list hsame.1 hsame.2)

theorem finishList_eq_ok {request : Request} (h : f.finishList env = .ok request) :
    Accepts env [] Slot.ofRun := by
  obtain ⟨g, -, hmap⟩ := bind_eq_ok_iff.mp h
  cases hadd : Filled.addEnvironment env [] Slot.ofRun with
  | error err =>
      rw [hadd] at hmap
      cases hmap
  | ok g₀ => exact accepts_of_addEnvironment hadd

end Filled

namespace Scan

variable {args : List String} {f : Filled}

theorem all_list_iff : all .list args = .ok f ↔
    all .run args = .ok f ∧ ∀ e ∈ f, Scope.admits .list e.1 = true := by
  simp only [all_eq_ok_iff]
  constructor
  · rintro ⟨hreads, hnodup, hall⟩
    exact ⟨⟨hreads, hnodup, fun e he => ⟨rfl, (hall e he).2⟩⟩, fun e he => (hall e he).1⟩
  · rintro ⟨⟨hreads, hnodup, hall⟩, hadmits⟩
    exact ⟨hreads, hnodup, fun e he => ⟨hadmits e he, (hall e he).2⟩⟩

end Scan

namespace Request

variable {env : Environment} {args : List String} {f : Filled} {verbose : Bool} {r : RunRequest}

theorem parse_list_eq (env : Environment) (args : List String) :
    parse env ("list" :: args) = (Scan.all .list args).bind fun f => f.finishList env := by
  change parseList env args = _
  rw [parseList]
  cases Scan.all .list args with
  | error err => rfl
  | ok f =>
      change (f.addEnvironment env Slot.ofCorpus).bind _ = f.finishList env
      rw [Filled.finishList]
      cases f.addEnvironment env Slot.ofCorpus with
      | error err => rfl
      | ok g =>
          simp only [Except.bind]
          cases Filled.addEnvironment env [] Slot.ofRun <;> rfl

/-- The options that only a run has. -/
def runOptions : List String := ["compiler", "build", "executable", "timeout", "color", "format"]

theorem admits_list_iff (slot : Slot) : Scope.admits .list slot = true ↔
    ∀ word ∈ runOptions, Slot.ofOption? word.toList ≠ some slot := by
  cases slot <;> decide

theorem all_list_of_run (hall : Scan.all .run args = .ok f)
    (hoptions : ∀ word ∈ runOptions, ¬ Mentions word args) : Scan.all .list args = .ok f := by
  refine Scan.all_list_iff.mpr ⟨hall, fun e he => ?_⟩
  refine (admits_list_iff e.1).mpr fun word hword hslot => ?_
  have hhas : f.has e.1 = true := List.any_eq_true.mpr ⟨e, he, by simp⟩
  exact hoptions word hword (((Scan.all_eq_ok_iff.mp hall).1.has_iff_mentions hslot).mp hhas)

/-- A run that gives no option of its own has these from the environment, so only the variable of
the directory may still be bad. -/
theorem accepts_nil (haccepts : f.Accepts env Slot.ofRun)
    (hadmits : ∀ e ∈ f, Scope.admits .list e.1 = true) (hdir : env.lookup "SCTEST_DIR" ≠ some "") :
    Filled.Accepts env [] Slot.ofRun := by
  intro slot hslot _ text hgiven
  by_cases hfree : f.text? slot = none
  · exact haccepts slot hslot hfree text hgiven
  · have hhas : f.has slot = true := by
      rw [← Bool.not_eq_false, Filled.has_eq_false_iff]
      exact hfree
    have hadmitted : Scope.admits .list slot = true := by
      obtain ⟨e, he, heq⟩ := List.any_eq_true.mp hhas
      exact of_decide_eq_true heq ▸ hadmits e he
    cases slot with
    | testsDir =>
        have hne : text ≠ "" := by
          rintro rfl
          exact hdir hgiven
        simp [Slot.check, hne]
    | extension => rfl
    | verbose => exact absurd hslot (by decide)
    | compiler | build | executable | timeout | color | format => cases hadmitted

theorem finishList_of_empty (haccepts : f.Accepts env Slot.ofRun)
    (hdir : env.lookup "SCTEST_DIR" = some "") : f.finishList env = .error .invalidValue := by
  have hcorpus : Slot.ofCorpus ⊆ Slot.ofRun := by decide
  obtain ⟨g, hadd, -⟩ := Filled.exists_addEnvironment (haccepts.subset hcorpus)
  have hgiven : Slot.testsDir.given? env = some "" := hdir
  have hfault : Filled.addEnvironment env [] Slot.ofRun = .error .invalidValue :=
    Filled.addEnvironment_given rfl hgiven _
  rw [Filled.finishList, hadd, hfault]
  rfl

/-- What is accepted as a listing is accepted as a run without the word in front, with the same
verbosity and for the same corpus.  What is accepted as a run and gives no option that only a run
has is accepted as a listing in turn, unless the environment has an empty directory: then the
directory stands among the arguments, and the listing is refused. -/
theorem parse_listed (env : Environment) (args : List String) :
    (args.head? ≠ some "list" → args.head? ≠ some "help" → ∀ request,
      parse env ("list" :: args) = .ok request → ∃ verbose c r, request = .list verbose c ∧
        parse env args = .ok (.run verbose r) ∧ r.corpus = c ∧ r.settings.testsDir = c.testsDir ∧
        r.settings.extension = Settings.normalExtension c.extension) ∧
    (∀ verbose r, parse env args = .ok (.run verbose r) →
      (∀ word ∈ runOptions, ¬ Mentions word args) →
      (env.lookup "SCTEST_DIR" ≠ some "" →
        parse env ("list" :: args) = .ok (.list verbose r.corpus)) ∧
      (env.lookup "SCTEST_DIR" = some "" → fillsPosition args = true ∧
        parse env ("list" :: args) = .error .invalidValue)) := by
  refine ⟨fun hlist hhelp request h => ?_, fun verbose r h hoptions => ?_⟩
  · rw [parse_list_eq] at h
    obtain ⟨f, hall, hfinish⟩ := bind_eq_ok_iff.mp h
    have haccepts := Filled.finishList_eq_ok hfinish
    obtain ⟨verbose, r, hrun, hlisting⟩ := Filled.finish_of_accepts haccepts f
    obtain rfl : request = .list verbose r.corpus := Except.ok.inj (hfinish.symm.trans hlisting)
    refine ⟨verbose, r.corpus, r, rfl, ?_, rfl, rfl, rfl⟩
    rw [parse_eq_parseRun hlist hhelp, parseRun_eq, (Scan.all_list_iff.mp hall).1]
    exact hrun
  · obtain ⟨hlist, hhelp⟩ := head?_ne_of_parse h
    rw [parse_eq_parseRun hlist hhelp, parseRun_eq] at h
    obtain ⟨f, hall, hfinish⟩ := bind_eq_ok_iff.mp h
    have haccepts := (Filled.finish_eq_ok hfinish).1
    have hallList := all_list_of_run hall hoptions
    rw [parse_list_eq, hallList]
    refine ⟨fun hdir => ?_, fun hdir => ⟨?_, finishList_of_empty haccepts hdir⟩⟩
    · have hadmits := (Scan.all_list_iff.mp hallList).2
      obtain ⟨verbose', r', hrun, hlisting⟩ :=
        Filled.finish_of_accepts (accepts_nil haccepts hadmits hdir) f
      cases hfinish.symm.trans hrun
      exact hlisting
    · rw [← (Scan.all_eq_ok_iff.mp hall).1.has_testsDir, ← Bool.not_eq_false]
      intro hfree
      have hcheck := haccepts .testsDir (by decide) (Filled.has_eq_false_iff.mp hfree) "" hdir
      cases hcheck

/-- The directory is a word for what to do and the extension is one from the environment, with dots
in front. -/
theorem parse_listed_dots :
    let env : Environment := [("SCTEST_EXTENSION", "..c"), ("SCTEST_TIMEOUT", "5")]
    let r : RunRequest := ⟨⟨⟨"help"⟩, "..c"⟩, ⟨"cargo", ["run"]⟩, ⟨"./build.sh", []⟩, ⟨"./a.out"⟩,
      5, .auto, .text⟩
    parse env ["list", "-v", "help"] = .ok (.list true r.corpus) ∧
      parse env ["-v", "help"] = .ok (.run true r) ∧
      r.settings.extension = Settings.normalExtension "..c" := by
  intro env r
  have hrun : parse env ["-v", "help"] = .ok (.run true r) := rfl
  obtain ⟨hforth, hback⟩ := parse_listed env ["-v", "help"]
  have hlist := (hback true r hrun (by decide)).1 (by decide)
  obtain ⟨verbose, c, r', hrequest, hrun', hcorpus, -, hextension⟩ :=
    hforth (by decide) (by decide) _ hlist
  cases hrequest
  cases hrun.symm.trans hrun'
  exact ⟨hlist, hrun, hextension⟩

/-- The directory is given, so the run does not look at the empty one in the environment; the
listing does. -/
theorem parse_list_empty_directory :
    let env : Environment := [("SCTEST_DIR", "")]
    let r : RunRequest := ⟨⟨⟨"d"⟩, "sc"⟩, ⟨"cargo", ["run"]⟩, ⟨"./build.sh", []⟩, ⟨"./a.out"⟩, 60,
      .auto, .text⟩
    parse env ["d"] = .ok (.run false r) ∧ (∀ word ∈ runOptions, ¬ Mentions word ["d"]) ∧
      parse env ["list", "d"] = .error .invalidValue ∧
      parse env ["list", "d"] ≠ .ok (.list false r.corpus) := by
  intro env r
  exact ⟨rfl, by decide, rfl, by decide⟩

end Request

end Conformance
