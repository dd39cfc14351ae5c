import Conformance.Proofs.Evaluation
import Conformance.Proofs.Signal

/-!
# When a test passes

`Harness.Passes` says when a test passes and `Harness.FailsWith` with which reason it fails, in terms
of the file, the results of the stages and the lines that decide.  The verdict is a function of what
the evaluation looks at: the expectation, the first line that announces a failure of the compiler, and
the last line of the program's output.
-/

namespace Conformance

namespace Verdict

/-- The verdict on a value, given the last line of output if there is one. -/
def ofLast (expected : String) : Option String → Verdict
  | none => fail ("expected " ++ expected ++ ", got no output")
  | some line =>
      if String.ofList (Text.trimEnd line.toList) = expected then pass
      else fail ("expected " ++ expected ++ ", got " ++ String.ofList (Text.trimEnd line.toList))

theorem ofValue_eq (expected : String) (lines : List String) :
    ofValue expected lines = ofLast expected lines.getLast? := by
  unfold ofValue
  cases lines.getLast? <;> rfl

theorem ofLast_eq_pass_iff {expected : String} {last : Option String} :
    ofLast expected last = pass ↔
      ∃ line, last = some line ∧ String.ofList (Text.trimEnd line.toList) = expected := by
  cases last with
  | none => simp [ofLast]
  | some line =>
      by_cases h : String.ofList (Text.trimEnd line.toList) = expected <;> simp [ofLast, h]

theorem ofError_eq_pass_iff {expected : String} {outcome : CompileOutcome} :
    ofError expected outcome = pass ↔ outcome = .failure expected := by
  cases outcome with
  | success => simp [ofError]
  | failure code => by_cases h : code = expected <;> simp [ofError, h]

end Verdict

namespace Harness

variable {σ : Type} {h : Harness σ} {test : Case} {s t : σ}

/-- The test passes: the compiler fails with the expected code, or it does not fail and the last
line of the program is the expected text. -/
inductive Passes (h : Harness σ) (test : Case) (s : σ) : Prop
  | code {code line : String} {capture : Capture} {t : σ}
      (hread : h.expectation test s = .ok (.error code))
      (hcompile : h.tools.compile test.path s = (.ok capture, t))
      (hfirst : Signal.first? capture.lines = some line)
      (hcode : Signal.code? line = some code)
  | value {text last : String} {capture output : Capture} {artifact : Artifact} {s₁ s₂ t : σ}
      (hread : h.expectation test s = .ok (.value text))
      (hcompile : h.tools.compile test.path s = (.ok capture, s₁))
      (hsilent : ∀ line ∈ capture.lines, ¬ Signal.Announces line)
      (hbuild : h.tools.build s₁ = (.ok artifact, s₂))
      (hexecute : h.tools.execute artifact s₂ = (.ok output, t))
      (hlast : output.lines.getLast? = some last)
      (htext : String.ofList (Text.trimEnd last.toList) = text)

/-- The test fails, and this is the reason: the message of the first stage that went wrong, or what
was expected beside what was found. -/
inductive FailsWith (h : Harness σ) (test : Case) (s : σ) : String → Prop
  | unread {fault : Fault} (hread : h.expectation test s = .error fault) :
      FailsWith h test s fault.message
  | uncompiled {e : Expectation} {fault : Fault} {t : σ}
      (hread : h.expectation test s = .ok e)
      (hcompile : h.tools.compile test.path s = (.error fault, t)) :
      FailsWith h test s fault.message
  | malformed {e : Expectation} {line : String} {capture : Capture} {t : σ}
      (hread : h.expectation test s = .ok e)
      (hcompile : h.tools.compile test.path s = (.ok capture, t))
      (hfirst : Signal.first? capture.lines = some line)
      (hcode : Signal.code? line = none) :
      FailsWith h test s
        ("malformed failure signal `" ++ line ++ "`: no failure code follows FAILED")
  | unfailed {code : String} {capture : Capture} {t : σ}
      (hread : h.expectation test s = .ok (.error code))
      (hcompile : h.tools.compile test.path s = (.ok capture, t))
      (hsilent : ∀ line ∈ capture.lines, ¬ Signal.Announces line) :
      FailsWith h test s "expected failure, got none"
  | otherCode {expected code line : String} {capture : Capture} {t : σ}
      (hread : h.expectation test s = .ok (.error expected))
      (hcompile : h.tools.compile test.path s = (.ok capture, t))
      (hfirst : Signal.first? capture.lines = some line)
      (hcode : Signal.code? line = some code) (hne : code ≠ expected) :
      FailsWith h test s ("error code mismatch: expected " ++ expected ++ ", got " ++ code)
  | refused {text code line : String} {capture : Capture} {t : σ}
      (hread : h.expectation test s = .ok (.value text))
      (hcompile : h.tools.compile test.path s = (.ok capture, t))
      (hfirst : Signal.first? capture.lines = some line)
      (hcode : Signal.code? line = some code) :
      FailsWith h test s ("expected success, got compiler failure " ++ code)
  | unbuilt {text : String} {capture : Capture} {fault : Fault} {s₁ t : σ}
      (hread : h.expectation test s = .ok (.value text))
      (hcompile : h.tools.compile test.path s = (.ok capture, s₁))
      (hsilent : ∀ line ∈ capture.lines, ¬ Signal.Announces line)
      (hbuild : h.tools.build s₁ = (.error fault, t)) :
      FailsWith h test s fault.message
  | unexecuted {text : String} {capture : Capture} {artifact : Artifact} {fault : Fault}
      {s₁ s₂ t : σ}
      (hread : h.expectation test s = .ok (.value text))
      (hcompile : h.tools.compile test.path s = (.ok capture, s₁))
      (hsilent : ∀ line ∈ capture.lines, ¬ Signal.Announces line)
      (hbuild : h.tools.build s₁ = (.ok artifact, s₂))
      (hexecute : h.tools.execute artifact s₂ = (.error fault, t)) :
      FailsWith h test s fault.message
  | mute {text : String} {capture output : Capture} {artifact : Artifact} {s₁ s₂ t : σ}
      (hread : h.expectation test s = .ok (.value text))
      (hcompile : h.tools.compile test.path s = (.ok capture, s₁))
      (hsilent : ∀ line ∈ capture.lines, ¬ Signal.Announces line)
      (hbuild : h.tools.build s₁ = (.ok artifact, s₂))
      (hexecute : h.tools.execute artifact s₂ = (.ok output, t))
      (hlines : output.lines = []) :
      FailsWith h test s ("expected " ++ text ++ ", got no output")
  | otherValue {text last : String} {capture output : Capture} {artifact : Artifact}
      {s₁ s₂ t : σ}
      (hread : h.expectation test s = .ok (.value text))
      (hcompile : h.tools.compile test.path s = (.ok capture, s₁))
      (hsilent : ∀ line ∈ capture.lines, ¬ Signal.Announces line)
      (hbuild : h.tools.build s₁ = (.ok artifact, s₂))
      (hexecute : h.tools.execute artifact s₂ = (.ok output, t))
      (hlast : output.lines.getLast? = some last)
      (hne : String.ofList (Text.trimEnd last.toList) ≠ text) :
      FailsWith h test s
        ("expected " ++ text ++ ", got " ++ String.ofList (Text.trimEnd last.toList))

theorem ofLines_eq_success_of_silent {lines : List String}
    (hsilent : ∀ line ∈ lines, ¬ Signal.Announces line) :
    CompileOutcome.ofLines lines = .ok .success :=
  CompileOutcome.ofLines_eq_success_iff.mpr (Signal.first?_eq_none_iff.mpr hsilent)

theorem silent_of_ofLines_eq_success {lines : List String}
    (hsignal : CompileOutcome.ofLines lines = .ok .success) :
    ∀ line ∈ lines, ¬ Signal.Announces line :=
  Signal.first?_eq_none_iff.mp (CompileOutcome.ofLines_eq_success_iff.mp hsignal)

/-- Every way through an evaluation ends in a pass or in a failure with its reason. -/
theorem Evaluates.passes_or_failsWith {calls : List StageCall} {verdict : Verdict}
    (he : h.Evaluates test s calls verdict t) :
    (verdict = .pass ∧ h.Passes test s) ∨
      ∃ reason, verdict = .fail reason ∧ h.FailsWith test s reason := by
  cases he with
  | unread hread => exact .inr ⟨_, rfl, .unread hread⟩
  | uncompiled hread hcompile => exact .inr ⟨_, rfl, .uncompiled hread hcompile⟩
  | malformed hread hcompile hsignal =>
      obtain ⟨hfirst, hcode⟩ := CompileOutcome.ofLines_eq_malformed_iff.mp hsignal
      exact .inr ⟨_, rfl, .malformed hread hcompile hfirst hcode⟩
  | @judgedCode expected _ outcome _ hread hcompile hsignal =>
      cases outcome with
      | success =>
          exact .inr ⟨_, rfl, .unfailed hread hcompile (silent_of_ofLines_eq_success hsignal)⟩
      | failure code =>
          obtain ⟨line, hfirst, hcode⟩ := CompileOutcome.ofLines_eq_failure_iff.mp hsignal
          by_cases heq : code = expected
          · subst heq
            exact .inl ⟨by simp [Verdict.ofError], .code hread hcompile hfirst hcode⟩
          · exact .inr ⟨_, by simp [Verdict.ofError, heq],
              .otherCode hread hcompile hfirst hcode heq⟩
  | refused hread hcompile hsignal =>
      obtain ⟨line, hfirst, hcode⟩ := CompileOutcome.ofLines_eq_failure_iff.mp hsignal
      exact .inr ⟨_, rfl, .refused hread hcompile hfirst hcode⟩
  | unbuilt hread hcompile hsignal hbuild =>
      have hsilent := silent_of_ofLines_eq_success hsignal
      exact .inr ⟨_, rfl, .unbuilt hread hcompile hsilent hbuild⟩
  | unexecuted hread hcompile hsignal hbuild hexecute =>
      have hsilent := silent_of_ofLines_eq_success hsignal
      exact .inr ⟨_, rfl, .unexecuted hread hcompile hsilent hbuild hexecute⟩
  | @judgedValue text _ output _ _ _ _ hread hcompile hsignal hbuild hexecute =>
      have hsilent := silent_of_ofLines_eq_success hsignal
      rw [Verdict.ofValue_eq]
      cases hlast : output.lines.getLast? with
      | none =>
          exact .inr ⟨_, rfl, .mute hread hcompile hsilent hbuild hexecute
            (List.getLast?_eq_none_iff.mp hlast)⟩
      | some last =>
          by_cases heq : String.ofList (Text.trimEnd last.toList) = text
          · exact .inl ⟨by simp [Verdict.ofLast, heq],
              .value hread hcompile hsilent hbuild hexecute hlast heq⟩
          · exact .inr ⟨_, by simp [Verdict.ofLast, heq],
              .otherValue hread hcompile hsilent hbuild hexecute hlast heq⟩

theorem Passes.evaluate_fst (hp : h.Passes test s) : (h.evaluate test s).1 = .pass := by
  cases hp with
  | code hread hcompile hfirst hcode =>
      have hsignal := CompileOutcome.ofLines_eq_failure_iff.mpr ⟨_, hfirst, hcode⟩
      rw [(Evaluates.judgedCode hread hcompile hsignal).evaluate_eq]
      exact Verdict.ofError_eq_pass_iff.mpr rfl
  | value hread hcompile hsilent hbuild hexecute hlast htext =>
      have hsignal := ofLines_eq_success_of_silent hsilent
      rw [(Evaluates.judgedValue hread hcompile hsignal hbuild hexecute).evaluate_eq,
        Verdict.ofValue_eq]
      exact Verdict.ofLast_eq_pass_iff.mpr ⟨_, hlast, htext⟩

theorem FailsWith.evaluate_fst {reason : String} (hf : h.FailsWith test s reason) :
    (h.evaluate test s).1 = .fail reason := by
  cases hf with
  | unread hread => rw [(Evaluates.unread hread).evaluate_eq]
  | uncompiled hread hcompile => rw [(Evaluates.uncompiled hread hcompile).evaluate_eq]
  | malformed hread hcompile hfirst hcode =>
      have hsignal := CompileOutcome.ofLines_eq_malformed_iff.mpr ⟨hfirst, hcode⟩
      rw [(Evaluates.malformed hread hcompile hsignal).evaluate_eq]
      rfl
  | unfailed hread hcompile hsilent =>
      have hsignal := ofLines_eq_success_of_silent hsilent
      rw [(Evaluates.judgedCode hread hcompile hsignal).evaluate_eq]
      rfl
  | otherCode hread hcompile hfirst hcode hne =>
      have hsignal := CompileOutcome.ofLines_eq_failure_iff.mpr ⟨_, hfirst, hcode⟩
      rw [(Evaluates.judgedCode hread hcompile hsignal).evaluate_eq]
      simp [Verdict.ofError, hne]
  | refused hread hcompile hfirst hcode =>
      have hsignal := CompileOutcome.ofLines_eq_failure_iff.mpr ⟨_, hfirst, hcode⟩
      rw [(Evaluates.refused hread hcompile hsignal).evaluate_eq]
      rfl
  | unbuilt hread hcompile hsilent hbuild =>
      have hsignal := ofLines_eq_success_of_silent hsilent
      rw [(Evaluates.unbuilt hread hcompile hsignal hbuild).evaluate_eq]
  | unexecuted hread hcompile hsilent hbuild hexecute =>
      have hsignal := ofLines_eq_success_of_silent hsilent
      rw [(Evaluates.unexecuted hread hcompile hsignal hbuild hexecute).evaluate_eq]
  | mute hread hcompile hsilent hbuild hexecute hlines =>
      have hsignal := ofLines_eq_success_of_silent hsilent
      rw [(Evaluates.judgedValue hread hcompile hsignal hbuild hexecute).evaluate_eq, hlines]
      rfl
  | otherValue hread hcompile hsilent hbuild hexecute hlast hne =>
      have hsignal := ofLines_eq_success_of_silent hsilent
      rw [(Evaluates.judgedValue hread hcompile hsignal hbuild hexecute).evaluate_eq,
        Verdict.ofValue_eq, hlast]
      simp [Verdict.ofLast, hne]

theorem expectation_eq_ok_iff {e : Expectation} :
    h.expectation test s = .ok e ↔
      ∃ contents line, h.contents test.path s = .ok contents ∧
        Annotation.ofContents contents = .ok (some line) ∧ Expectation.ofHeader line = .ok e := by
  unfold expectation Expectation.ofFile
  constructor
  · intro hread
    cases hcontents : h.contents test.path s with
    | error cause => simp [hcontents, Except.bind] at hread
    | ok contents =>
        simp only [hcontents, Except.bind] at hread
        split at hread
        · cases hread
        · cases hread
        · rename_i line hline
          refine ⟨contents, line, rfl, hline, ?_⟩
          cases hheader : Expectation.ofHeader line with
          | error cause => simp [hheader] at hread
          | ok stated => simpa [hheader] using hread
  · rintro ⟨contents, line, hcontents, hline, hheader⟩
    simp only [hcontents, Except.bind, hline, hheader]

/-! ## What the verdict depends on -/

/-- What the evaluation looks at of the compiler's result: its fault, or the first line that
announces a failure. -/
def signal (h : Harness σ) (test : Case) (s : σ) : Except Fault (Option String) :=
  (h.tools.compile test.path s).1.map fun capture => Signal.first? capture.lines

/-- What it looks at of the later stages: their fault, or the last line of the program. -/
def ending (h : Harness σ) (test : Case) (s : σ) : Except Fault (Option String) :=
  (h.produce (h.tools.compile test.path s).2).1.map fun output => output.lines.getLast?

/-- The verdict from what is looked at. -/
def judge (expectation : Except Fault Expectation) (signal ending : Except Fault (Option String)) :
    Verdict :=
  match expectation, signal with
  | .error fault, _ | .ok _, .error fault => .fail fault.message
  | .ok e, .ok first =>
      match CompileOutcome.ofFirst first, e with
      | .error malformed, _ => .fail malformed.message
      | .ok outcome, .error code => .ofError code outcome
      | .ok (.failure code), .value _ => .ofCompileFailure code
      | .ok .success, .value text =>
          match ending with
          | .error fault => .fail fault.message
          | .ok last => .ofLast text last

theorem evaluate_fst_eq_judge (h : Harness σ) (test : Case) (s : σ) :
    (h.evaluate test s).1 = judge (h.expectation test s) (h.signal test s) (h.ending test s) := by
  obtain ⟨calls, verdict, t, he⟩ := h.exists_evaluates test s
  rw [he.evaluate_eq]
  cases he with
  | unread hread => simp only [judge, hread]
  | uncompiled hread hcompile => simp only [judge, signal, hread, hcompile, Except.map]
  | malformed hread hcompile hsignal =>
      rw [CompileOutcome.ofLines_eq] at hsignal
      simp only [judge, signal, hread, hcompile, Except.map, hsignal]
  | judgedCode hread hcompile hsignal =>
      rw [CompileOutcome.ofLines_eq] at hsignal
      simp only [judge, signal, hread, hcompile, Except.map, hsignal]
  | refused hread hcompile hsignal =>
      rw [CompileOutcome.ofLines_eq] at hsignal
      simp only [judge, signal, hread, hcompile, Except.map, hsignal]
  | unbuilt hread hcompile hsignal hbuild =>
      rw [CompileOutcome.ofLines_eq] at hsignal
      simp only [judge, signal, ending, produce, hread, hcompile, Except.map, hsignal, hbuild]
  | unexecuted hread hcompile hsignal hbuild hexecute =>
      rw [CompileOutcome.ofLines_eq] at hsignal
      simp only [judge, signal, ending, produce, hread, hcompile, Except.map, hsignal, hbuild,
        hexecute]
  | judgedValue hread hcompile hsignal hbuild hexecute =>
      rw [CompileOutcome.ofLines_eq] at hsignal
      simp only [judge, signal, ending, produce, hread, hcompile, Except.map, hsignal, hbuild,
        hexecute, Verdict.ofValue_eq]

/-- The end counts only where a value is expected and no failure was announced. -/
theorem judge_congr {expectation : Except Fault Expectation}
    {signal ending ending' : Except Fault (Option String)}
    (hending : ∀ text, expectation = .ok (.value text) → signal = .ok none → ending = ending') :
    judge expectation signal ending = judge expectation signal ending' := by
  cases expectation with
  | error fault => rfl
  | ok e =>
      cases signal with
      | error fault => rfl
      | ok first =>
          cases e with
          | error code => cases hfirst : CompileOutcome.ofFirst first <;> simp [judge, hfirst]
          | value text =>
              cases first with
              | none => rw [hending text rfl rfl]
              | some line =>
                  cases hcode : Signal.code? line <;> simp [judge, CompileOutcome.ofFirst, hcode]

/-- The expectation is what the first line states.  A test passes exactly under the stated conditions,
any other ends with the reason of what went wrong first, and nothing else of what the stages return
has a bearing on that. -/
theorem evaluate_fst_iff (h : Harness σ) (test : Case) (s : σ) :
    (∀ e, h.expectation test s = .ok e ↔
        ∃ contents line, h.contents test.path s = .ok contents ∧
          Annotation.ofContents contents = .ok (some line) ∧
          Expectation.ofHeader line = .ok e) ∧
      ((h.evaluate test s).1 = .pass ↔ h.Passes test s) ∧
      (∀ reason, (h.evaluate test s).1 = .fail reason ↔ h.FailsWith test s reason) ∧
      ∀ {τ : Type} (h' : Harness τ) (s' : τ),
        h'.expectation test s' = h.expectation test s →
        h'.signal test s' = h.signal test s →
        (∀ text, h.expectation test s = .ok (.value text) → h.signal test s = .ok none →
          h'.ending test s' = h.ending test s) →
        (h'.evaluate test s').1 = (h.evaluate test s).1 := by
  obtain ⟨calls, he⟩ := h.evaluates_evaluate test s
  refine ⟨fun _ => expectation_eq_ok_iff, ⟨fun hpass => ?_, Passes.evaluate_fst⟩,
    fun reason => ⟨fun hfail => ?_, FailsWith.evaluate_fst⟩,
    fun h' s' hread hsignal hending => ?_⟩
  · rcases he.passes_or_failsWith with ⟨_, hp⟩ | ⟨reason, hreason, _⟩
    · exact hp
    · rw [hpass] at hreason
      cases hreason
  · rcases he.passes_or_failsWith with ⟨hpass, _⟩ | ⟨other, hother, hf⟩
    · rw [hfail] at hpass
      cases hpass
    · rw [hfail] at hother
      cases hother
      exact hf
  · rw [evaluate_fst_eq_judge, evaluate_fst_eq_judge, hread, hsignal]
    exact judge_congr hending

end Harness

end Conformance
