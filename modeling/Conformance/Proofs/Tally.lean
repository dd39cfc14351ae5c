import Conformance.Proofs.Evaluation

/-!
# The tally of a run

A report counts the verdicts recorded in it and keeps the messages of the failures in order.  The
report of a run records the verdicts on its tests, each evaluated from the state that the one before
it has left.
-/

namespace Conformance

namespace Report

/-- The report in which the verdicts on named tests are recorded one after the other. -/
def ofVerdicts (verdicts : List (String × Verdict)) : Report :=
  verdicts.foldl (fun r verdict => r.record verdict.1 verdict.2) empty

/-- The message that a verdict leaves in a report. -/
def messageOf? (test : String) (verdict : Verdict) : Option String :=
  verdict.reason?.map (failureMessage test)

theorem foldl_record (r : Report) (verdicts : List (String × Verdict)) :
    verdicts.foldl (fun r verdict => r.record verdict.1 verdict.2) r =
      ⟨r.passed + verdicts.countP (·.2.isPass), r.failed + verdicts.countP (!·.2.isPass),
        r.failures ++ verdicts.filterMap fun verdict => messageOf? verdict.1 verdict.2⟩ := by
  induction verdicts generalizing r with
  | nil => simp
  | cons verdict verdicts ih =>
      obtain ⟨test, verdict⟩ := verdict
      rw [List.foldl_cons, ih]
      cases verdict with
      | pass =>
          simp [record, Verdict.isPass, messageOf?, Verdict.reason?, Nat.add_assoc, Nat.add_comm]
      | fail reason =>
          simp [record, Verdict.isPass, messageOf?, Verdict.reason?, Nat.add_assoc, Nat.add_comm]

theorem ofVerdicts_eq (verdicts : List (String × Verdict)) :
    ofVerdicts verdicts =
      ⟨verdicts.countP (·.2.isPass), verdicts.countP (!·.2.isPass),
        verdicts.filterMap fun verdict => messageOf? verdict.1 verdict.2⟩ := by
  simp [ofVerdicts, foldl_record, empty]

theorem total_ofVerdicts (verdicts : List (String × Verdict)) :
    (ofVerdicts verdicts).total = verdicts.length := by
  have hsplit := List.length_eq_countP_add_countP (·.2.isPass) (l := verdicts)
  simpa [ofVerdicts_eq, total] using hsplit.symm

theorem isSuccess_ofVerdicts (verdicts : List (String × Verdict)) :
    (ofVerdicts verdicts).isSuccess = true ↔ ∀ verdict ∈ verdicts, verdict.2 = .pass := by
  have hpass (verdict : Verdict) : verdict.isPass = true ↔ verdict = .pass := by
    cases verdict <;> simp [Verdict.isPass]
  rw [ofVerdicts_eq, isSuccess, beq_iff_eq, List.countP_eq_zero]
  simp [← hpass]

end Report

namespace Harness

variable {σ : Type}

/-- The verdicts on tests that are evaluated one after the other. -/
def verdicts (h : Harness σ) : List Case → σ → List Verdict
  | [], _ => []
  | test :: tests, s => (h.evaluate test s).1 :: h.verdicts tests (h.evaluate test s).2

theorem foldl_step_fst (h : Harness σ) (tests : List Case) (progress : Report × σ) :
    (tests.foldl h.step progress).1 =
      ((tests.map fun test => test.path.text).zip (h.verdicts tests progress.2)).foldl
        (fun r verdict => r.record verdict.1 verdict.2) progress.1 := by
  induction tests generalizing progress with
  | nil => rfl
  | cons test tests ih => exact ih _

theorem run_fst (h : Harness σ) (suites : List Suite) (s : σ) :
    (h.run suites s).1 = Report.ofVerdicts
      (((Corpus.cases suites).map fun test => test.path.text).zip
        (h.verdicts (Corpus.cases suites) s)) :=
  h.foldl_step_fst _ _

@[simp] theorem length_verdicts (h : Harness σ) (tests : List Case) (s : σ) :
    (h.verdicts tests s).length = tests.length := by
  induction tests generalizing s with
  | nil => rfl
  | cons test tests ih => simp [verdicts, ih]

/-- A run records one verdict on each test. -/
theorem total_run (h : Harness σ) (suites : List Suite) (s : σ) :
    (h.run suites s).1.total = (Corpus.cases suites).length := by
  rw [run_fst, Report.total_ofVerdicts]
  simp

/-- Every test of a list passes when its turn comes. -/
def AllPass (h : Harness σ) (tests : List Case) (s : σ) : Prop :=
  ∀ done test rest, tests = done ++ test :: rest → (h.evaluate test (h.after done s)).1 = .pass

theorem allPass_nil (h : Harness σ) (s : σ) : h.AllPass [] s := by
  simp [AllPass]

theorem allPass_cons (h : Harness σ) (test : Case) (tests : List Case) (s : σ) :
    h.AllPass (test :: tests) s ↔
      (h.evaluate test s).1 = .pass ∧ h.AllPass tests (h.evaluate test s).2 := by
  constructor
  · intro hall
    refine ⟨hall [] test tests rfl, fun done other rest heq => ?_⟩
    exact hall (test :: done) other rest (by rw [heq, List.cons_append])
  · rintro ⟨hfirst, hall⟩ done other rest heq
    cases done with
    | nil =>
        obtain ⟨rfl, -⟩ := List.cons.inj heq
        exact hfirst
    | cons first done =>
        obtain ⟨rfl, htests⟩ := List.cons.inj heq
        exact hall done other rest htests

theorem allPass_iff (h : Harness σ) (tests : List Case) (s : σ) :
    h.AllPass tests s ↔ ∀ verdict ∈ h.verdicts tests s, verdict = .pass := by
  induction tests generalizing s with
  | nil => simp [allPass_nil, verdicts]
  | cons test tests ih => simp [allPass_cons, verdicts, ih]

theorem map_snd_named (h : Harness σ) (tests : List Case) (s : σ) :
    ((tests.map fun test => test.path.text).zip (h.verdicts tests s)).map Prod.snd =
      h.verdicts tests s :=
  List.map_snd_zip (by simp)

theorem isSuccess_run (h : Harness σ) (suites : List Suite) (s : σ) :
    (h.run suites s).1.isSuccess = true ↔ h.AllPass (Corpus.cases suites) s := by
  rw [run_fst, Report.isSuccess_ofVerdicts, allPass_iff, ← List.forall_mem_map (f := Prod.snd)
    (P := (· = Verdict.pass)), map_snd_named]

end Harness

end Conformance
