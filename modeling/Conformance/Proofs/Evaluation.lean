import Conformance.Harness

/-!
# The ways through an evaluation

`Harness.Evaluates` lists the ways in which the evaluation of a test can go, one constructor for each
exit, with the stage calls on the way, the verdict and the state that is left.  Every test has such a
way, so facts about evaluations are proved by cases on it.  A run goes through its tests as a
`Harness.Chain`: each of them starts from the state that the one before it has left.
-/

namespace Conformance

namespace Harness

variable {σ α β : Type}

/-- What the file of a test says it expects. -/
def expectation (h : Harness σ) (test : Case) (s : σ) : Except Fault Expectation :=
  Expectation.ofFile test.path (h.contents test.path s)

/-- Evaluating `test` from `s` makes these stage calls, gives this verdict and leaves this state. -/
inductive Evaluates (h : Harness σ) (test : Case) (s : σ) :
    List StageCall → Verdict → σ → Prop
  | unread {fault : Fault} (hread : h.expectation test s = .error fault) :
      Evaluates h test s [] (.fail fault.message) s
  | uncompiled {e : Expectation} {fault : Fault} {t : σ}
      (hread : h.expectation test s = .ok e)
      (hcompile : h.tools.compile test.path s = (.error fault, t)) :
      Evaluates h test s [.compile test.path] (.fail fault.message) t
  | malformed {e : Expectation} {capture : Capture} {signal : MalformedSignal} {t : σ}
      (hread : h.expectation test s = .ok e)
      (hcompile : h.tools.compile test.path s = (.ok capture, t))
      (hsignal : CompileOutcome.ofLines capture.lines = .error signal) :
      Evaluates h test s [.compile test.path] (.fail signal.message) t
  | judgedCode {code : String} {capture : Capture} {outcome : CompileOutcome} {t : σ}
      (hread : h.expectation test s = .ok (.error code))
      (hcompile : h.tools.compile test.path s = (.ok capture, t))
      (hsignal : CompileOutcome.ofLines capture.lines = .ok outcome) :
      Evaluates h test s [.compile test.path] (.ofError code outcome) t
  | refused {text code : String} {capture : Capture} {t : σ}
      (hread : h.expectation test s = .ok (.value text))
      (hcompile : h.tools.compile test.path s = (.ok capture, t))
      (hsignal : CompileOutcome.ofLines capture.lines = .ok (.failure code)) :
      Evaluates h test s [.compile test.path] (.ofCompileFailure code) t
  | unbuilt {text : String} {capture : Capture} {fault : Fault} {s₁ t : σ}
      (hread : h.expectation test s = .ok (.value text))
      (hcompile : h.tools.compile test.path s = (.ok capture, s₁))
      (hsignal : CompileOutcome.ofLines capture.lines = .ok .success)
      (hbuild : h.tools.build s₁ = (.error fault, t)) :
      Evaluates h test s [.compile test.path, .build] (.fail fault.message) t
  | unexecuted {text : String} {capture : Capture} {artifact : Artifact} {fault : Fault}
      {s₁ s₂ t : σ}
      (hread : h.expectation test s = .ok (.value text))
      (hcompile : h.tools.compile test.path s = (.ok capture, s₁))
      (hsignal : CompileOutcome.ofLines capture.lines = .ok .success)
      (hbuild : h.tools.build s₁ = (.ok artifact, s₂))
      (hexecute : h.tools.execute artifact s₂ = (.error fault, t)) :
      Evaluates h test s [.compile test.path, .build, .execute artifact]
        (.fail fault.message) t
  | judgedValue {text : String} {capture output : Capture} {artifact : Artifact} {s₁ s₂ t : σ}
      (hread : h.expectation test s = .ok (.value text))
      (hcompile : h.tools.compile test.path s = (.ok capture, s₁))
      (hsignal : CompileOutcome.ofLines capture.lines = .ok .success)
      (hbuild : h.tools.build s₁ = (.ok artifact, s₂))
      (hexecute : h.tools.execute artifact s₂ = (.ok output, t)) :
      Evaluates h test s [.compile test.path, .build, .execute artifact]
        (.ofValue text output.lines) t

theorem Evaluates.evaluate_eq {h : Harness σ} {test : Case} {s t : σ} {calls : List StageCall}
    {verdict : Verdict} (he : h.Evaluates test s calls verdict t) :
    h.evaluate test s = (verdict, t) := by
  cases he with
  | unread hread =>
      rw [expectation] at hread
      simp only [evaluate, attempt, hread]
  | uncompiled hread hcompile =>
      rw [expectation] at hread
      simp only [evaluate, attempt, hread, compile, hcompile]
  | malformed hread hcompile hsignal =>
      rw [expectation] at hread
      simp only [evaluate, attempt, hread, compile, hcompile, hsignal]
      rfl
  | judgedCode hread hcompile hsignal =>
      rw [expectation] at hread
      simp only [evaluate, attempt, hread, compile, hcompile, hsignal]
  | refused hread hcompile hsignal =>
      rw [expectation] at hread
      simp only [evaluate, attempt, hread, compile, hcompile, hsignal]
  | unbuilt hread hcompile hsignal hbuild =>
      rw [expectation] at hread
      simp only [evaluate, attempt, hread, compile, hcompile, hsignal, produce, hbuild]
  | unexecuted hread hcompile hsignal hbuild hexecute =>
      rw [expectation] at hread
      simp only [evaluate, attempt, hread, compile, hcompile, hsignal, produce, hbuild, hexecute]
  | judgedValue hread hcompile hsignal hbuild hexecute =>
      rw [expectation] at hread
      simp only [evaluate, attempt, hread, compile, hcompile, hsignal, produce, hbuild, hexecute]

theorem exists_evaluates (h : Harness σ) (test : Case) (s : σ) :
    ∃ calls verdict t, h.Evaluates test s calls verdict t := by
  cases hread : h.expectation test s with
  | error fault => exact ⟨_, _, _, .unread hread⟩
  | ok e =>
      rcases hcompile : h.tools.compile test.path s with ⟨fault | capture, s₁⟩
      · exact ⟨_, _, _, .uncompiled hread hcompile⟩
      cases hsignal : CompileOutcome.ofLines capture.lines with
      | error signal => exact ⟨_, _, _, .malformed hread hcompile hsignal⟩
      | ok outcome =>
          cases e with
          | error code => exact ⟨_, _, _, .judgedCode hread hcompile hsignal⟩
          | value text =>
              cases outcome with
              | failure code => exact ⟨_, _, _, .refused hread hcompile hsignal⟩
              | success =>
                  rcases hbuild : h.tools.build s₁ with ⟨fault | artifact, s₂⟩
                  · exact ⟨_, _, _, .unbuilt hread hcompile hsignal hbuild⟩
                  rcases hexecute : h.tools.execute artifact s₂ with ⟨fault | output, t⟩
                  · exact ⟨_, _, _, .unexecuted hread hcompile hsignal hbuild hexecute⟩
                  · exact ⟨_, _, _, .judgedValue hread hcompile hsignal hbuild hexecute⟩

/-- The way that the evaluation of a test takes. -/
theorem evaluates_evaluate (h : Harness σ) (test : Case) (s : σ) :
    ∃ calls, h.Evaluates test s calls (h.evaluate test s).1 (h.evaluate test s).2 := by
  obtain ⟨calls, verdict, t, he⟩ := h.exists_evaluates test s
  rw [he.evaluate_eq]
  exact ⟨calls, he⟩

/-! ## Recording the stages -/

/-- The same harness with a record of the stages begun, oldest first. -/
def traced (h : Harness σ) : Harness (σ × List StageCall) where
  tools := h.tools.traced
  contents path s := h.contents path s.1

theorem traced_compile {h : Harness σ} {source : Path} {s t : σ} {result : Except Fault Capture}
    (hcompile : h.tools.compile source s = (result, t)) (log : List StageCall) :
    h.traced.tools.compile source (s, log) = (result, t, log ++ [.compile source]) := by
  simp only [traced, Toolchain.traced, hcompile]

theorem traced_build {h : Harness σ} {s t : σ} {result : Except Fault Artifact}
    (hbuild : h.tools.build s = (result, t)) (log calls : List StageCall) :
    h.traced.tools.build (s, log ++ calls) = (result, t, log ++ (calls ++ [.build])) := by
  simp only [traced, Toolchain.traced, hbuild, List.append_assoc]

theorem traced_execute {h : Harness σ} {artifact : Artifact} {s t : σ}
    {result : Except Fault Capture} (hexecute : h.tools.execute artifact s = (result, t))
    (log calls : List StageCall) :
    h.traced.tools.execute artifact (s, log ++ calls) =
      (result, t, log ++ (calls ++ [.execute artifact])) := by
  simp only [traced, Toolchain.traced, hexecute, List.append_assoc]

/-- The way is the same where it is recorded, and the record grows by its calls. -/
theorem Evaluates.traced {h : Harness σ} {test : Case} {s t : σ} {calls : List StageCall}
    {verdict : Verdict} (he : h.Evaluates test s calls verdict t) (log : List StageCall) :
    h.traced.Evaluates test (s, log) calls verdict (t, log ++ calls) := by
  cases he with
  | unread hread => simpa using Evaluates.unread (h := h.traced) (s := (s, log)) hread
  | uncompiled hread hcompile => exact .uncompiled hread (traced_compile hcompile log)
  | malformed hread hcompile hsignal =>
      exact .malformed hread (traced_compile hcompile log) hsignal
  | judgedCode hread hcompile hsignal =>
      exact .judgedCode hread (traced_compile hcompile log) hsignal
  | refused hread hcompile hsignal =>
      exact .refused hread (traced_compile hcompile log) hsignal
  | unbuilt hread hcompile hsignal hbuild =>
      exact .unbuilt hread (traced_compile hcompile log) hsignal (traced_build hbuild log _)
  | unexecuted hread hcompile hsignal hbuild hexecute =>
      exact .unexecuted hread (traced_compile hcompile log) hsignal (traced_build hbuild log _)
        (traced_execute hexecute log _)
  | judgedValue hread hcompile hsignal hbuild hexecute =>
      exact .judgedValue hread (traced_compile hcompile log) hsignal (traced_build hbuild log _)
        (traced_execute hexecute log _)

/-- A test goes without any stage just where its file states no expectation. -/
theorem Evaluates.calls_eq_nil_iff {h : Harness σ} {test : Case} {s t : σ} {calls : List StageCall}
    {verdict : Verdict} (he : h.Evaluates test s calls verdict t) :
    calls = [] ↔ ∃ fault, h.expectation test s = .error fault := by
  cases he with
  | unread hread => simp [hread]
  | uncompiled hread _ => simp [hread]
  | malformed hread _ _ => simp [hread]
  | judgedCode hread _ _ => simp [hread]
  | refused hread _ _ => simp [hread]
  | unbuilt hread _ _ _ => simp [hread]
  | unexecuted hread _ _ _ _ => simp [hread]
  | judgedValue hread _ _ _ _ => simp [hread]

theorem traced_evaluate_calls_eq_nil_iff (h : Harness σ) (test : Case) (s : σ) :
    (h.traced.evaluate test (s, [])).2.2 = [] ↔ ∃ fault, h.expectation test s = .error fault := by
  obtain ⟨calls, he⟩ := h.evaluates_evaluate test s
  rw [(he.traced []).evaluate_eq, List.nil_append]
  exact he.calls_eq_nil_iff

/-! ## Tests in a row -/

/-- Tests done one after the other, each from the state that the one before it has left, with what
came of each of them. -/
inductive Chain (R : Case → σ → α → σ → Prop) : List Case → σ → List α → σ → Prop
  | nil (s : σ) : Chain R [] s [] s
  | cons {test : Case} {tests : List Case} {s u t : σ} {x : α} {xs : List α}
      (hstep : R test s x u) (hrest : Chain R tests u xs t) :
      Chain R (test :: tests) s (x :: xs) t

namespace Chain

variable {R : Case → σ → α → σ → Prop} {tests : List Case} {s t : σ} {xs : List α}

theorem map {S : Case → σ → β → σ → Prop} {f : α → β}
    (hRS : ∀ test s x t, R test s x t → S test s (f x) t) (hc : Chain R tests s xs t) :
    Chain S tests s (xs.map f) t := by
  induction hc with
  | nil s => exact .nil s
  | cons hstep _ ih => exact .cons (hRS _ _ _ _ hstep) ih

/-- Where each step is determined by its start, so is the whole. -/
theorem unique (hR : ∀ {test s x y t u}, R test s x t → R test s y u → x = y ∧ t = u)
    (hc : Chain R tests s xs t) {ys : List α} {u : σ} (hd : Chain R tests s ys u) :
    xs = ys ∧ t = u := by
  induction hc generalizing ys with
  | nil s =>
      cases hd
      exact ⟨rfl, rfl⟩
  | cons hstep _ ih =>
      cases hd with
      | cons hstep' hrest' =>
          obtain ⟨rfl, rfl⟩ := hR hstep hstep'
          obtain ⟨rfl, rfl⟩ := ih hrest'
          exact ⟨rfl, rfl⟩

end Chain

/-- The state after the tests of a list. -/
def after (h : Harness σ) (tests : List Case) (s : σ) : σ :=
  tests.foldl (fun s test => (h.evaluate test s).2) s

@[simp] theorem after_nil (h : Harness σ) (s : σ) : h.after [] s = s := rfl

@[simp] theorem after_cons (h : Harness σ) (test : Case) (tests : List Case) (s : σ) :
    h.after (test :: tests) s = h.after tests (h.evaluate test s).2 := rfl

theorem foldl_step_snd (h : Harness σ) (tests : List Case) (progress : Report × σ) :
    (tests.foldl h.step progress).2 = h.after tests progress.2 := by
  induction tests generalizing progress with
  | nil => rfl
  | cons test tests ih => exact ih _

theorem run_snd (h : Harness σ) (suites : List Suite) (s : σ) :
    (h.run suites s).2 = h.after (Corpus.cases suites) s :=
  h.foldl_step_snd _ _

theorem exists_chain_evaluates (h : Harness σ) (tests : List Case) (s : σ) :
    ∃ turns, Chain (fun test s (turn : List StageCall × Verdict) t =>
      h.Evaluates test s turn.1 turn.2 t) tests s turns (h.after tests s) := by
  induction tests generalizing s with
  | nil => exact ⟨[], .nil s⟩
  | cons test tests ih =>
      obtain ⟨calls, he⟩ := h.evaluates_evaluate test s
      obtain ⟨turns, hc⟩ := ih (h.evaluate test s).2
      exact ⟨(calls, _) :: turns, .cons he hc⟩

end Harness

end Conformance
