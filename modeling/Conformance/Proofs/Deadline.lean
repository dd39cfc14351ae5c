import Conformance.Proofs.Accounting
import Conformance.Proofs.Outcome
import Conformance.Proofs.Waiting

/-!
# Limits beyond the clock

Each stage begins by reckoning when its limit ends.  The arguments take any limit of 64 bits, while
the clock counts 63: where the end of a limit is beyond that, the stage aborts the whole program, and
all verdicts are lost.  This happens in a run just if some test has such a stage when its turn comes
(`Host.Overruns`), and it may be a later stage than the first one, for the time goes on.  With any
other limit the run reports on all tests.
-/

namespace Conformance

namespace Text.Decimal

theorem readWord64_lt {s : List Char} {n : Nat} (hread : readWord64 s = some n) : n < 2 ^ 64 := by
  unfold readWord64 at hread
  simpa using (Option.filter_eq_some_iff.mp hread).2

end Text.Decimal

theorem Filled.timeout_lt (f : Filled) : f.timeout < 2 ^ 64 := by
  rw [timeout]
  cases hread : (f.text? .timeout).bind fun text => Text.Decimal.readWord64 text.toList with
  | none => decide
  | some n =>
      obtain ⟨text, _, hn⟩ := Option.bind_eq_some_iff.mp hread
      exact Text.Decimal.readWord64_lt hn

namespace Request

variable {env : Environment} {args : List String} {verbose : Bool} {request : RunRequest}

theorem parseRun_eq_ok {r : Request} (hparse : parseRun env args = .ok r) :
    ∃ f : Filled, r = .run f.isVerbose f.runRequest := by
  simp only [parseRun, bind, Except.bind, pure, Except.pure] at hparse
  split at hparse
  · cases hparse
  split at hparse
  · cases hparse
  · exact ⟨_, (Except.ok.inj hparse).symm⟩

theorem parseList_eq_ok {r : Request} (hparse : parseList env args = .ok r) :
    ∃ f : Filled, r = .list f.isVerbose f.corpusRequest := by
  simp only [parseList, bind, Except.bind, pure, Except.pure] at hparse
  split at hparse
  · cases hparse
  split at hparse
  · cases hparse
  split at hparse
  · cases hparse
  · exact ⟨_, (Except.ok.inj hparse).symm⟩

theorem exists_filled_of_parse (hparse : parse env args = .ok (.run verbose request)) :
    ∃ f : Filled, request = f.runRequest := by
  rw [parse.eq_def] at hparse
  split at hparse
  · obtain ⟨f, hf⟩ := parseList_eq_ok hparse
    cases hf
  · cases hparse
  · obtain ⟨f, hf⟩ := parseRun_eq_ok hparse
    exact ⟨f, (Request.run.inj hf).2⟩

/-- An accepted limit has 64 bits. -/
theorem timeout_lt_of_parse (hparse : parse env args = .ok (.run verbose request)) :
    request.timeout < 2 ^ 64 := by
  obtain ⟨f, rfl⟩ := exists_filled_of_parse hparse
  exact f.timeout_lt

end Request

/-! ## Stages -/

namespace Host

variable {σ : Type} {h : Host σ} {settings : Settings} {limit : Option Span} {label : String}
  {command : Command} {how : Stop} {s t : σ}

/-- A stage comes to a stop only before its command is started, or in a wait without a limit. -/
theorem capture_stopped (hcapture : h.capture limit label command s = .stopped how t) :
    how = .aborted ∧ h.canCount limit s = false ∨ how = .endless ∧ limit = none := by
  cases captures_of_eq hcapture with
  | aborted hcount => exact .inl ⟨rfl, hcount⟩
  | @endless started hstart hending =>
      refine .inr ⟨rfl, ?_⟩
      cases limit with
      | none => rfl
      | some span =>
          obtain ⟨e, hreturns⟩ := started.course.exists_returns span.micros
          obtain ⟨hend, hne⟩ := Course.returns_iff.mp hreturns
          exact absurd (hend.symm.trans hending) hne

theorem capture_aborted_iff : h.capture limit label command s = .stopped .aborted s ↔
    h.canCount limit s = false := by
  refine ⟨fun hcapture => ?_, capture_of_uncountable⟩
  obtain ⟨-, hcount⟩ | ⟨hhow, -⟩ := capture_stopped hcapture
  · exact hcount
  · cases hhow

/-- The end of a limit of whole seconds can be counted just if the seconds on the clock and the limit have 63
bits together. -/
theorem canCount_limitOfSeconds_iff {seconds : Nat} :
    h.canCount (Settings.limitOfSeconds seconds) s = true ↔
      seconds = 0 ∨ h.clock s / 1000000 + seconds < 2 ^ 63 := by
  unfold Settings.limitOfSeconds
  split
  · rename_i hzero
    exact iff_of_true rfl (.inl hzero)
  · rename_i hpositive
    have hsum : h.clock s + (Span.ofSeconds seconds).micros = h.clock s + seconds * 1000000 := by
      simp only [Span.ofSeconds, Span.micros]
      omega
    rw [canCount_some_iff, hsum, Nat.add_mul_div_right _ _ (by decide)]
    exact (or_iff_right hpositive).symm

theorem limitOfSeconds_eq_none_iff {seconds : Nat} :
    Settings.limitOfSeconds seconds = none ↔ seconds = 0 := by
  unfold Settings.limitOfSeconds
  split <;> simp_all

theorem capture_limitOfSeconds_aborted_iff {seconds : Nat} :
    h.capture (Settings.limitOfSeconds seconds) label command s = .stopped .aborted s ↔
      seconds ≠ 0 ∧ 2 ^ 63 ≤ h.clock s / 1000000 + seconds := by
  rw [capture_aborted_iff, ← Bool.not_eq_true, canCount_limitOfSeconds_iff, not_or, Nat.not_lt]

theorem capture_limitOfSeconds_cases (h : Host σ) (seconds : Nat) (label : String)
    (command : Command) (s : σ) :
    (∃ result t, h.capture (Settings.limitOfSeconds seconds) label command s = .returned result t) ∨
      h.capture (Settings.limitOfSeconds seconds) label command s = .stopped .aborted s ∨
      seconds = 0 ∧
        ∃ t, h.capture (Settings.limitOfSeconds seconds) label command s = .stopped .endless t := by
  cases hcapture : h.capture (Settings.limitOfSeconds seconds) label command s with
  | returned result t => exact .inl ⟨result, t, rfl⟩
  | stopped how t =>
      obtain ⟨rfl, hcount⟩ | ⟨rfl, hnone⟩ := capture_stopped hcapture
      · exact .inr (.inl (hcapture.symm.trans (capture_of_uncountable hcount)))
      · exact .inr (.inr ⟨limitOfSeconds_eq_none_iff.mp hnone, t, rfl⟩)

/-! ## Tests -/

/-- A harness at work on the host. -/
def harness (h : Host σ) (settings : Settings)
    (contents : Path → Session σ → Except IoError Bytes) : Harness (Session σ) :=
  ⟨h.toolchain settings, contents⟩

variable {contents : Path → Session σ → Except IoError Bytes} {test : Case} {tests : List Case}
  {x : Session σ}

theorem compile_of_going {source : Path} {capture : Capture}
    (hcompile : (h.harness settings contents).tools.compile source (.going s) = (.ok capture, x)) :
    ∃ t, x = .going t ∧ h.compile settings source s = .returned (.ok capture) t :=
  Session.stage_going_eq_ok hcompile

theorem build_of_going {artifact : Artifact}
    (hbuild : (h.harness settings contents).tools.build (.going s) = (.ok artifact, x)) :
    ∃ t, x = .going t ∧ h.build settings s = .returned (.ok artifact) t :=
  Session.stage_going_eq_ok hbuild

theorem execute_of_going {artifact : Artifact} {capture : Capture}
    (hexecute : (h.harness settings contents).tools.execute artifact (.going s) =
      (.ok capture, x)) :
    ∃ t, x = .going t ∧ h.execute settings artifact s = .returned (.ok capture) t :=
  Session.stage_going_eq_ok hexecute

/-- The test whose turn comes in a state begins a stage at a time from which the clock cannot count to the
end of the limit. -/
inductive Overruns (h : Host σ) (settings : Settings)
    (contents : Path → Session σ → Except IoError Bytes) (test : Case) (s : σ) : Prop
  | compile {e : Expectation}
      (hread : (h.harness settings contents).expectation test (.going s) = .ok e)
      (hcount : h.canCount settings.limit s = false)
  | build {text : String} {capture : Capture} {t u : σ}
      (hread : (h.harness settings contents).expectation test (.going s) = .ok (.value text))
      (hcompile : h.compile settings test.path s = .returned (.ok capture) t)
      (hsignal : CompileOutcome.ofLines capture.lines = .ok .success)
      (hclear : h.clear settings.executable.anchored t = .ok u)
      (hcount : h.canCount settings.limit u = false)
  | execute {text : String} {capture : Capture} {artifact : Artifact} {t u : σ}
      (hread : (h.harness settings contents).expectation test (.going s) = .ok (.value text))
      (hcompile : h.compile settings test.path s = .returned (.ok capture) t)
      (hsignal : CompileOutcome.ofLines capture.lines = .ok .success)
      (hbuild : h.build settings t = .returned (.ok artifact) u)
      (hcount : h.canCount settings.limit u = false)

/-- A stage of a session that has come to a stop was going before, or had come to it already. -/
theorem stage_stopped {α : Type} {act : σ → Reply σ α} {y : Session σ} {result : Except Fault α}
    (hstage : Session.stage act (.going s) = (result, y)) (hstop : y.stop? = some how) :
    act s = .stopped how y.state := by
  have hnext := Session.stage_snd_going act s
  rw [hstage] at hnext
  obtain rfl : y = ⟨(act s).state, (act s).stop?⟩ := hnext
  cases hact : act s with
  | returned result t =>
      rw [hact] at hstop
      cases hstop
  | stopped how' t =>
      rw [hact] at hstop
      cases hstop
      rfl

theorem build_stopped (hbuild : h.build settings s = .stopped how t) :
    ∃ u, h.clear settings.executable.anchored s = .ok u ∧
      h.capture settings.limit (toString settings.build) settings.build.toCommand u =
        .stopped how t := by
  cases builds_of_eq hbuild with
  | stopped hclear hcapture => exact ⟨_, hclear, hcapture⟩

theorem execute_stopped {artifact : Artifact}
    (hexecute : h.execute settings artifact s = .stopped how t) :
    ∃ u, h.capture settings.limit (toString artifact) ⟨artifact.path.text, []⟩ s =
      .stopped how u := by
  cases executes_of_eq hexecute with
  | aborted hcapture => exact ⟨_, hcapture⟩
  | endless hcapture => exact ⟨_, hcapture⟩

/-- A test brings the program to a stop only if it overruns the clock, or waits without a limit. -/
theorem evaluate_stopped
    (hstop : ((h.harness settings contents).evaluate test (.going s)).2.stop? = some how) :
    how = .aborted ∧ h.Overruns settings contents test s ∨ how = .endless ∧ settings.limit = none := by
  obtain ⟨calls, verdict, y, he⟩ := (h.harness settings contents).exists_evaluates test (.going s)
  rw [he.evaluate_eq] at hstop
  cases he with
  | unread => cases hstop
  | uncompiled hread hcompile =>
      exact (capture_stopped (stage_stopped hcompile hstop)).imp_left
        fun ⟨hhow, hcount⟩ => ⟨hhow, .compile hread hcount⟩
  | malformed hread hcompile =>
      obtain ⟨_, rfl, -⟩ := compile_of_going hcompile
      cases hstop
  | judgedCode hread hcompile =>
      obtain ⟨_, rfl, -⟩ := compile_of_going hcompile
      cases hstop
  | refused hread hcompile =>
      obtain ⟨_, rfl, -⟩ := compile_of_going hcompile
      cases hstop
  | unbuilt hread hcompile hsignal hbuild =>
      obtain ⟨_, rfl, hcompiled⟩ := compile_of_going hcompile
      obtain ⟨u, hclear, hcapture⟩ := build_stopped (stage_stopped hbuild hstop)
      exact (capture_stopped hcapture).imp_left
        fun ⟨hhow, hcount⟩ => ⟨hhow, .build hread hcompiled hsignal hclear hcount⟩
  | unexecuted hread hcompile hsignal hbuild hexecute =>
      obtain ⟨_, rfl, hcompiled⟩ := compile_of_going hcompile
      obtain ⟨_, rfl, hbuilt⟩ := build_of_going hbuild
      obtain ⟨_, hcapture⟩ := execute_stopped (stage_stopped hexecute hstop)
      exact (capture_stopped hcapture).imp_left
        fun ⟨hhow, hcount⟩ => ⟨hhow, .execute hread hcompiled hsignal hbuilt hcount⟩
  | judgedValue hread hcompile hsignal hbuild hexecute =>
      obtain ⟨_, rfl, -⟩ := compile_of_going hcompile
      obtain ⟨_, rfl, -⟩ := build_of_going hbuild
      obtain ⟨_, rfl, -⟩ := execute_of_going hexecute
      cases hstop

theorem Overruns.evaluate (hover : h.Overruns settings contents test s) :
    ((h.harness settings contents).evaluate test (.going s)).2.stop? = some .aborted := by
  have hstage {α : Type} {act : σ → Reply σ α} {u v : σ} (hact : act u = .stopped .aborted v) :
      Session.stage act (.going u) = (.error Session.unanswered, ⟨v, some .aborted⟩) :=
    Session.stage_of_stopped hact
  cases hover with
  | compile hread hcount =>
      have hcompile : h.compile settings test.path s = .stopped .aborted s :=
        capture_of_uncountable hcount
      rw [(Harness.Evaluates.uncompiled hread (hstage hcompile)).evaluate_eq]
  | @build _ _ t u hread hcompile hsignal hclear hcount =>
      have hbuild : h.build settings t = .stopped .aborted u := by
        simp only [Host.build, hclear, capture_of_uncountable hcount]
      rw [(Harness.Evaluates.unbuilt hread (Session.stage_of_returned hcompile) hsignal
        (hstage hbuild)).evaluate_eq]
  | @execute _ _ artifact t u hread hcompile hsignal hbuild hcount =>
      have hexecute : h.execute settings artifact u = .stopped .aborted (h.release artifact u) :=
        (Executes.aborted (capture_of_uncountable hcount)).unique
      rw [(Harness.Evaluates.unexecuted hread (Session.stage_of_returned hcompile) hsignal
        (Session.stage_of_returned hbuild) (hstage hexecute)).evaluate_eq]

/-! ## Runs -/

/-- After a stop a test has no effect. -/
theorem evaluate_of_stop (hstop : x.stop? = some how) :
    ((h.harness settings contents).evaluate test x).2 = x := by
  cases hread : (h.harness settings contents).expectation test x with
  | error fault => rw [(Harness.Evaluates.unread hread).evaluate_eq]
  | ok e =>
      have hcompile : (h.harness settings contents).tools.compile test.path x =
          (.error Session.unanswered, x) := Session.stage_of_stop hstop
      rw [(Harness.Evaluates.uncompiled hread hcompile).evaluate_eq]

theorem after_of_stop (hstop : x.stop? = some how) :
    (h.harness settings contents).after tests x = x := by
  induction tests with
  | nil => rfl
  | cons test tests ih =>
      change (h.harness settings contents).after tests
        ((h.harness settings contents).evaluate test x).2 = x
      rw [evaluate_of_stop hstop, ih]

/-- Some test overruns the clock when its turn comes. -/
def Loses (h : Host σ) (settings : Settings) (contents : Path → Session σ → Except IoError Bytes)
    (tests : List Case) (s : σ) : Prop :=
  ∃ done test rest t, tests = done ++ test :: rest ∧
    (h.harness settings contents).after done (.going s) = .going t ∧
      h.Overruns settings contents test t

theorem after_stopped
    (hstop : ((h.harness settings contents).after tests (.going s)).stop? = some how) :
    how = .aborted ∧ h.Loses settings contents tests s ∨ how = .endless ∧ settings.limit = none := by
  induction tests generalizing s with
  | nil => cases hstop
  | cons test tests ih =>
      have hcons : (h.harness settings contents).after (test :: tests) (.going s) =
          (h.harness settings contents).after tests
            ((h.harness settings contents).evaluate test (.going s)).2 := rfl
      rw [hcons] at hstop
      cases hnext : ((h.harness settings contents).evaluate test (.going s)).2.stop? with
      | none =>
          rw [Session.eq_going hnext] at hstop
          refine (ih hstop).imp_left fun ⟨hhow, hloses⟩ => ⟨hhow, ?_⟩
          obtain ⟨done, other, rest, t, rfl, hdone, hover⟩ := hloses
          refine ⟨test :: done, other, rest, t, rfl, ?_, hover⟩
          rw [← hdone, ← Session.eq_going hnext]
          rfl
      | some how' =>
          rw [after_of_stop hnext, hnext] at hstop
          obtain rfl := Option.some.inj hstop
          exact (evaluate_stopped hnext).imp_left
            fun ⟨hhow, hover⟩ => ⟨hhow, [], test, tests, s, rfl, rfl, hover⟩

theorem Loses.after (hloses : h.Loses settings contents tests s) :
    ((h.harness settings contents).after tests (.going s)).stop? = some .aborted := by
  obtain ⟨done, test, rest, t, rfl, hdone, hover⟩ := hloses
  have hcons : (h.harness settings contents).after (test :: rest) (.going t) =
      (h.harness settings contents).after rest
        ((h.harness settings contents).evaluate test (.going t)).2 := rfl
  rw [Harness.after_append, hdone, hcons, after_of_stop hover.evaluate]
  exact hover.evaluate

end Host

namespace Workplace

variable {σ : Type} {h : Host σ} {tree : σ → FileTree} {directory : Location} {isTerminal : Bool}
  {env : Environment} {request : RunRequest} {suites : List Suite} {s : σ}

theorem runHarness_of_stop {w : Workplace σ} {settings : Settings} {how : Stop}
    (hfound : w.found settings s = .ok suites)
    (hstop : w.stop? ((w.harness settings).after (Corpus.cases suites) s) = some how) :
    w.runHarness settings s =
      .stopped how ((w.harness settings).after (Corpus.cases suites) s) := by
  rw [runHarness_of_ok hfound, reply, Harness.run_snd, hstop]

theorem runTests_of_loses
    (hfound : (ofHost h tree directory isTerminal).found request.settings (.going s) = .ok suites)
    (hloses : h.Loses request.settings (ofHost h tree directory isTerminal).contents
      (Corpus.cases suites) s) :
    ((ofHost h tree directory isTerminal).runTests env request (.going s)).1 = some .aborted := by
  rw [runTests, runHarness_of_stop hfound hloses.after]

/-- A run that does not lose its tests reports on all of them, or waits without a limit. -/
theorem runTests_of_not_loses (env : Environment)
    (hfound : (ofHost h tree directory isTerminal).found request.settings (.going s) = .ok suites)
    (hkeeps : ¬h.Loses request.settings (ofHost h tree directory isTerminal).contents
      (Corpus.cases suites) s) :
    (ofHost h tree directory isTerminal).StagesReturn request.settings (.going s) ∨
      request.settings.limit = none ∧
        ((ofHost h tree directory isTerminal).runTests env request (.going s)).1 = none := by
  cases hstop : (ofHost h tree directory isTerminal).stop?
      (((ofHost h tree directory isTerminal).harness request.settings).after
        (Corpus.cases suites) (.going s)) with
  | none =>
      refine .inl fun suites' hfound' => ?_
      obtain rfl := Except.ok.inj (hfound.symm.trans hfound')
      exact hstop
  | some how =>
      obtain ⟨-, hloses⟩ | ⟨rfl, hlimit⟩ := Host.after_stopped hstop
      · exact absurd hloses hkeeps
      · exact .inr ⟨hlimit, by rw [runTests, runHarness_of_stop hfound hstop]⟩

theorem exists_report_of_return {w : Workplace σ} {x : σ} (env : Environment)
    (hfound : w.found request.settings x = .ok suites)
    (hreturn : w.StagesReturn request.settings x) :
    ∃ report, w.runHarness request.settings x =
        .returned (.ok report) ((w.harness request.settings).after (Corpus.cases suites) x) ∧
      report.total = (Corpus.cases suites).length ∧
      w.runTests env request x =
        (some (.ofOutput report.isSuccess
            (report.render request.format (w.showsColor env request.color))),
          (w.harness request.settings).after (Corpus.cases suites) x) := by
  rw [runHarness_of_return hfound hreturn, runTests_of_ok hfound hreturn, Harness.run_snd]
  exact ⟨_, rfl, Harness.total_run .., rfl⟩

/-- No report has the code of a program that is aborted. -/
theorem loses_of_runTests
    (hfound : (ofHost h tree directory isTerminal).found request.settings (.going s) = .ok suites)
    (hlost : ((ofHost h tree directory isTerminal).runTests env request (.going s)).1 =
      some .aborted) :
    h.Loses request.settings (ofHost h tree directory isTerminal).contents
      (Corpus.cases suites) s := by
  by_contra hkeeps
  obtain hreturn | ⟨-, hendless⟩ := runTests_of_not_loses env hfound hkeeps
  · obtain ⟨report, -, -, hrun⟩ := exists_report_of_return env hfound hreturn
    rw [hrun] at hlost
    have hcode : (Outcome.ofOutput report.isSuccess _).code = 101 :=
      congrArg Outcome.code (Option.some.inj hlost)
    rw [Outcome.code_ofOutput] at hcode
    split at hcode <;> cases hcode
  · cases hendless.symm.trans hlost

end Workplace

namespace Program

variable {σ : Type} {env : Environment} {args : List String} {verbose : Bool} {request : RunRequest}

/-- An accepted limit has 64 bits, and it is the limit of the stages.  Whoever has set it, a stage can only
reckon its end if the seconds on the clock and the limit have 63 bits together.  A stage that cannot
aborts the program; any other one that has a limit returns.  A run is lost, without a report, just if
some test has a stage of the first kind when its turn comes, be it the first stage of the run or a later
one.  If there is none, and there is a limit, the run reports on every test; and without a limit it can
only be kept from that by a wait that never ends. -/
theorem run_within_clock (hparse : Request.parse env args = .ok (.run verbose request))
    (h : Host σ) (tree : σ → FileTree) (directory : Location) (isTerminal : Bool) (s : σ) :
    let w := Workplace.ofHost h tree directory isTerminal
    let harness := w.harness request.settings
    request.timeout < 2 ^ 64 ∧
    (∀ settings : Settings, request.settings.limit = (settings.withLimit request.timeout).limit) ∧
    (∀ (settings : Settings) seconds label command t,
      let captured := h.capture (settings.withLimit seconds).limit label command t
      (captured = .stopped .aborted t ↔
        seconds ≠ 0 ∧ 2 ^ 63 ≤ h.clock t / 1000000 + seconds) ∧
      ((∃ result u, captured = .returned result u) ∨ captured = .stopped .aborted t ∨
        seconds = 0 ∧ ∃ u, captured = .stopped .endless u)) ∧
    ∀ suites, w.found request.settings (.going s) = .ok suites →
      (h.Loses request.settings w.contents (Corpus.cases suites) s ↔
        (run w env args (.going s)).1 = some ⟨101, "", none⟩) ∧
      (¬h.Loses request.settings w.contents (Corpus.cases suites) s →
        (∃ report, w.runHarness request.settings (.going s) =
            .returned (.ok report) (harness.after (Corpus.cases suites) (.going s)) ∧
          report.total = (Corpus.cases suites).length ∧
          run w env args (.going s) =
            (some (.ofOutput report.isSuccess
                (report.render request.format (w.showsColor env request.color))),
              harness.after (Corpus.cases suites) (.going s))) ∨
        request.timeout = 0 ∧ (run w env args (.going s)).1 = none) := by
  intro w harness
  rw [run_of_parse hparse]
  refine ⟨Request.timeout_lt_of_parse hparse, fun _ => rfl, fun _ seconds label command t =>
    ⟨Host.capture_limitOfSeconds_aborted_iff, h.capture_limitOfSeconds_cases seconds label command t⟩,
    fun suites hfound => ⟨⟨Workplace.runTests_of_loses hfound, Workplace.loses_of_runTests hfound⟩,
      fun hkeeps => ?_⟩⟩
  obtain hreturn | ⟨hnone, hendless⟩ := Workplace.runTests_of_not_loses env hfound hkeeps
  · exact .inl (Workplace.exists_report_of_return env hfound hreturn)
  · exact .inr ⟨Host.limitOfSeconds_eq_none_iff.mp hnone, hendless⟩

/-! ## A slow desk -/

/-- A host whose state is the time.  Every command takes a second, and only the executable prints
something. -/
def slowHost : Host Nat where
  remove _ s := .ok s
  isFile _ _ := true
  start command _ s :=
    let printed : Bytes := if command.program = "./a.out" then [0x37, 0x0A] else []
    .ok
      { begun := s
        course := ⟨some (1000000, .ok (.code 0)), some (1000000, printed), some 1000000⟩
        takenAway := fun time => s + time }
  clock := id

/-- The desk, with this host at work on it. -/
def slowDesk : Workplace (Session Nat) :=
  .ofHost slowHost (fun _ => Workplace.deskTree) [] false

/-- A run of the tests on the desk with a limit. -/
def deskRequest (timeout : Nat) : RunRequest :=
  { Workplace.deskRequest "sc" with timeout := timeout }

theorem found_slowDesk (timeout : Nat) (x : Session Nat) :
    slowDesk.found (deskRequest timeout).settings x =
      .ok [⟨"basic", [Workplace.deskCase]⟩] := by
  have hextension : Settings.normalExtension "sc" = "sc" := rfl
  exact Workplace.found_desk (Workplace.deskScript []) ⟨""⟩ hextension

theorem expectation_slowDesk (settings : Settings) (x : Session Nat) :
    (slowDesk.harness settings).expectation Workplace.deskCase x = .ok (.value "7") :=
  Workplace.expectation_deskCase (Workplace.deskScript []) ⟨""⟩ settings

/-- Every command comes to its end if its limit can be counted. -/
theorem capture_slowHost {timeout s : Nat} {label : String} {command : Command}
    (hlimit : timeout ≠ 0) (hlast : s / 1000000 + timeout < 2 ^ 63)
    (hpassable : command.isPassable = true) :
    slowHost.capture (Settings.limitOfSeconds timeout) label command s =
      .returned (.ok (.ofOutput (.code 0) (if command.program = "./a.out" then [0x37, 0x0A] else [])))
        (s + 1000000) := by
  have hcount : slowHost.canCount (Settings.limitOfSeconds timeout) s = true :=
    Host.canCount_limitOfSeconds_iff.mpr (.inr hlast)
  obtain ⟨d, hd, hle⟩ : ∃ d, (Settings.limitOfSeconds timeout).map Span.micros = some d ∧
      1000000 ≤ d := by
    refine ⟨_, by rw [Settings.limitOfSeconds, if_neg hlimit]; rfl, ?_⟩
    simp only [Span.ofSeconds, Span.micros]
    omega
  have hpoll : Course.pollFrom 1000000 = 1000000 := by decide
  have hnoticed : 1000000 ≤ Course.pollFrom d := Nat.le_trans hle (Course.le_pollFrom d)
  rw [Host.capture_of_started hcount hpassable rfl, hd]
  simp [Course.ending, Course.noticed, Course.received, Started.reply, hpoll, hnoticed, hle]

theorem compile_slowHost {timeout s : Nat} (hlimit : timeout ≠ 0)
    (hlast : s / 1000000 + timeout < 2 ^ 63) :
    slowHost.compile (deskRequest timeout).settings Workplace.deskCase.path s =
      .returned (.ok ⟨[], some 0⟩) (s + 1000000) := by
  have hpassable : (Settings.standard.compiler.toCommandOn Workplace.deskCase.path).isPassable =
      true := by decide
  exact capture_slowHost hlimit hlast hpassable

theorem build_slowHost {timeout s : Nat} (hlimit : timeout ≠ 0)
    (hlast : s / 1000000 + timeout < 2 ^ 63) :
    slowHost.build (deskRequest timeout).settings s =
      .returned (.ok ⟨Settings.standard.executable.anchored, true⟩) (s + 1000000) := by
  have hpassable : Settings.standard.build.toCommand.isPassable = true := by decide
  have hcapture : slowHost.capture (deskRequest timeout).settings.limit
      (toString (deskRequest timeout).settings.build)
      (deskRequest timeout).settings.build.toCommand s = _ :=
    capture_slowHost hlimit hlast hpassable
  have hclear (path : Path) : slowHost.clear path s = .ok s := rfl
  simp only [Host.build, hclear, hcapture]
  rfl

theorem execute_slowHost {timeout s : Nat} (hlimit : timeout ≠ 0)
    (hlast : s / 1000000 + timeout < 2 ^ 63) :
    slowHost.execute (deskRequest timeout).settings ⟨Settings.standard.executable.anchored, true⟩ s =
      .returned (.ok ⟨["7"], some 0⟩) (s + 1000000) := by
  have hpassable : (⟨Settings.standard.executable.anchored.text, []⟩ : Command).isPassable = true := by
    decide
  have hcapture : slowHost.capture (deskRequest timeout).settings.limit
      (toString (⟨Settings.standard.executable.anchored, true⟩ : Artifact))
      ⟨Settings.standard.executable.anchored.text, []⟩ s = _ :=
    capture_slowHost hlimit hlast hpassable
  exact (Host.Executes.returned hcapture).unique

/-- With two seconds to spare before the clock is at its end no stage of the test is too late. -/
theorem not_loses_slowDesk {timeout : Nat} (hlimit : timeout ≠ 0) (hlast : 2 + timeout < 2 ^ 63) :
    ¬slowHost.Loses (deskRequest timeout).settings slowDesk.contents [Workplace.deskCase] 0 := by
  rintro ⟨done, test, rest, t, hsplit, hdone, hover⟩
  obtain ⟨rfl, rfl, rfl⟩ : done = [] ∧ test = Workplace.deskCase ∧ rest = [] := by
    cases done with
    | nil => simpa [eq_comm] using hsplit
    | cons => simp at hsplit
  obtain rfl : 0 = t := congrArg Session.state hdone
  have hcounts {s : Nat} (hle : s / 1000000 ≤ 2)
      (hcount : slowHost.canCount (deskRequest timeout).settings.limit s = false) : False := by
    have hcan : slowHost.canCount (Settings.limitOfSeconds timeout) s = true :=
      Host.canCount_limitOfSeconds_iff.mpr (.inr (Nat.lt_of_le_of_lt (Nat.add_le_add_right hle _) hlast))
    cases hcan.symm.trans hcount
  have hstart : slowHost.compile (deskRequest timeout).settings Workplace.deskCase.path 0 =
      .returned (.ok ⟨[], some 0⟩) 1000000 := compile_slowHost hlimit (by omega)
  cases hover with
  | compile hread hcount => exact hcounts (by decide) hcount
  | build hread hcompile hsignal hclear hcount =>
      cases hstart.symm.trans hcompile
      cases hclear
      exact hcounts (by decide) hcount
  | execute hread hcompile hsignal hbuild hcount =>
      cases hstart.symm.trans hcompile
      cases (build_slowHost hlimit (by omega)).symm.trans hbuild
      exact hcounts (by decide) hcount

/-- With one second less the execution is too late. -/
theorem loses_slowDesk : slowHost.Loses (deskRequest (2 ^ 63 - 2)).settings slowDesk.contents
    [Workplace.deskCase] 0 := by
  have hcompile : slowHost.compile (deskRequest (2 ^ 63 - 2)).settings Workplace.deskCase.path 0 =
      .returned (.ok ⟨[], some 0⟩) 1000000 := compile_slowHost (by decide) (by decide)
  have hbuild : slowHost.build (deskRequest (2 ^ 63 - 2)).settings 1000000 =
      .returned (.ok ⟨Settings.standard.executable.anchored, true⟩) 2000000 := build_slowHost (by decide) (by decide)
  have hread := expectation_slowDesk (deskRequest (2 ^ 63 - 2)).settings (.going 0)
  exact ⟨[], Workplace.deskCase, [], 0, rfl, rfl,
    .execute hread hcompile (by decide) hbuild (by decide)⟩

/-- When the clock is at zero, the test on the desk is reported on up to a limit of 2⁶³ - 3 seconds, and
with one second more the run is lost in its third stage. -/
theorem run_within_clock_desk :
    (∃ report : Report, report.total = 1 ∧
      (run slowDesk [] ["tests", "--timeout", "9223372036854775805"] (.going 0)).1 =
        some (.ofOutput report.isSuccess (report.render .text false))) ∧
      (run slowDesk [] ["tests", "--timeout", "9223372036854775806"] (.going 0)).1 =
        some ⟨101, "", none⟩ := by
  have hlast : Request.parse [] ["tests", "--timeout", "9223372036854775805"] =
      .ok (.run false (deskRequest (2 ^ 63 - 3))) := rfl
  have hover : Request.parse [] ["tests", "--timeout", "9223372036854775806"] =
      .ok (.run false (deskRequest (2 ^ 63 - 2))) := rfl
  constructor
  · obtain ⟨_, _, _, hrun⟩ := run_within_clock hlast slowHost (fun _ => Workplace.deskTree) [] false 0
    obtain ⟨report, _, htotal, heq⟩ | ⟨hzero, _⟩ :=
      (hrun _ (found_slowDesk ..)).2 (not_loses_slowDesk (by decide) (by decide))
    · exact ⟨report, htotal, congrArg Prod.fst heq⟩
    · exact absurd hzero (by decide)
  · obtain ⟨_, _, _, hrun⟩ := run_within_clock hover slowHost (fun _ => Workplace.deskTree) [] false 0
    exact (hrun _ (found_slowDesk ..)).1.mp loses_slowDesk

/-- With the greatest limit there is no report on a test that passes with the standard one. -/
theorem run_lost_desk :
    (run slowDesk [] ["tests"] (.going 0)).1 = some ⟨0, "1 passed\n0 failed\n", none⟩ ∧
      run slowDesk [] ["tests", "--timeout", "18446744073709551615"] (.going 0) =
        (some ⟨101, "", none⟩, ⟨0, some .aborted⟩) := by
  have hstandard : Request.parse [] ["tests"] =
      .ok (.run false (deskRequest Settings.standardSeconds)) := rfl
  have hover : Request.parse [] ["tests", "--timeout", "18446744073709551615"] =
      .ok (.run false (deskRequest (2 ^ 64 - 1))) := rfl
  constructor
  · let settings := (deskRequest Settings.standardSeconds).settings
    have hlimit : Settings.standardSeconds ≠ 0 := by decide
    have hcompile : slowHost.compile settings Workplace.deskCase.path 0 =
        .returned (.ok ⟨[], some 0⟩) 1000000 := compile_slowHost hlimit (by decide)
    have hbuild : slowHost.build settings 1000000 =
        .returned (.ok ⟨Settings.standard.executable.anchored, true⟩) 2000000 :=
      build_slowHost hlimit (by decide)
    have hexecute : slowHost.execute settings ⟨Settings.standard.executable.anchored, true⟩ 2000000 =
        .returned (.ok ⟨["7"], some 0⟩) 3000000 := execute_slowHost hlimit (by decide)
    have hstage : (slowDesk.harness settings).tools.execute
        ⟨Settings.standard.executable.anchored, true⟩ (.going 2000000) =
          (.ok ⟨["7"], some 0⟩, .going 3000000) := Session.stage_of_returned hexecute
    have hevaluate : (slowDesk.harness settings).evaluate Workplace.deskCase (.going 0) =
        (.ofValue "7" ["7"], .going 3000000) :=
      (Harness.Evaluates.judgedValue (expectation_slowDesk settings (.going 0))
        (Session.stage_of_returned hcompile) (by decide) (Session.stage_of_returned hbuild)
        hstage).evaluate_eq
    have hrun : (slowDesk.harness settings).run [⟨"basic", [Workplace.deskCase]⟩] (.going 0) =
        (Report.empty.record Workplace.deskCase.path.text (.ofValue "7" ["7"]), .going 3000000) := by
      change (slowDesk.harness settings).step (Report.empty, .going 0) Workplace.deskCase = _
      rw [Harness.step, hevaluate]
    have hreturn : slowDesk.StagesReturn settings (.going 0) := by
      intro suites hfound
      obtain rfl := Except.ok.inj ((found_slowDesk _ _).symm.trans hfound)
      rw [← Harness.run_snd, hrun]
      rfl
    rw [run_of_parse hstandard, Workplace.runTests_of_ok (found_slowDesk ..) hreturn, hrun]
    decide
  · let settings := (deskRequest (2 ^ 64 - 1)).settings
    have hcompile : slowHost.compile settings Workplace.deskCase.path 0 = .stopped .aborted 0 :=
      Host.capture_of_uncountable (by decide)
    have hevaluate : (slowDesk.harness settings).evaluate Workplace.deskCase (.going 0) =
        (.fail Session.unanswered.message, ⟨0, some .aborted⟩) :=
      (Harness.Evaluates.uncompiled (expectation_slowDesk settings (.going 0))
        (Session.stage_of_stopped hcompile)).evaluate_eq
    have hafter : (slowDesk.harness settings).after
        (Corpus.cases [⟨"basic", [Workplace.deskCase]⟩]) (.going 0) = ⟨0, some .aborted⟩ :=
      congrArg Prod.snd hevaluate
    have hstop : slowDesk.stop? ((slowDesk.harness settings).after
        (Corpus.cases [⟨"basic", [Workplace.deskCase]⟩]) (.going 0)) = some .aborted := by
      rw [hafter]
      rfl
    rw [run_of_parse hover, Workplace.runTests,
      Workplace.runHarness_of_stop (found_slowDesk ..) hstop, hafter]
    rfl

end Program

end Conformance
