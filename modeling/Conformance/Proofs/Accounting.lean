import Conformance.Proofs.Tally

/-!
# The accounting of a run

Reports add up: what is recorded after other things counts on from there, and its messages come
behind theirs.  So a run of suites and then of more suites gives the sum of two reports, the second
of them from the state that the first run has left, and nothing that was once counted is lost.
-/

namespace Conformance

namespace Report

/-- The counts of both reports and the messages of both, one after the other. -/
protected def append (r q : Report) : Report :=
  ⟨r.passed + q.passed, r.failed + q.failed, r.failures ++ q.failures⟩

instance : Append Report := ⟨Report.append⟩

@[simp] theorem passed_append (r q : Report) : (r ++ q).passed = r.passed + q.passed := rfl

@[simp] theorem failed_append (r q : Report) : (r ++ q).failed = r.failed + q.failed := rfl

@[simp] theorem failures_append (r q : Report) : (r ++ q).failures = r.failures ++ q.failures :=
  rfl

theorem ofVerdicts_append (xs ys : List (String × Verdict)) :
    ofVerdicts (xs ++ ys) = ofVerdicts xs ++ ofVerdicts ys := by
  rw [ofVerdicts, List.foldl_append, ← ofVerdicts, foldl_record, ofVerdicts_eq ys]
  rfl

theorem ofVerdicts_cons (verdict : String × Verdict) (verdicts : List (String × Verdict)) :
    ofVerdicts (verdict :: verdicts) = ofVerdicts [verdict] ++ ofVerdicts verdicts :=
  ofVerdicts_append [verdict] verdicts

/-- There is one message for each failure. -/
def IsBalanced (r : Report) : Prop := r.failures.length = r.failed

theorem isBalanced_empty : empty.IsBalanced := rfl

theorem IsBalanced.record {r : Report} (hr : r.IsBalanced) (test : String) (verdict : Verdict) :
    (r.record test verdict).IsBalanced := by
  cases verdict with
  | pass => exact hr
  | fail reason =>
      rw [IsBalanced] at hr
      simp [IsBalanced, Report.record, hr]

theorem isBalanced_ofVerdicts (verdicts : List (String × Verdict)) :
    (ofVerdicts verdicts).IsBalanced :=
  List.foldlRecOn verdicts _ isBalanced_empty fun _ hr verdict _ => hr.record verdict.1 verdict.2

/-- The message of a failure stands behind as many others as there were failures before. -/
theorem getElem?_failures_ofVerdicts (before after : List (String × Verdict))
    (test reason : String) :
    (ofVerdicts (before ++ (test, .fail reason) :: after)).failures[(ofVerdicts before).failed]? =
      some (failureMessage test reason) := by
  rw [ofVerdicts_append, ofVerdicts_cons, failures_append, failures_append,
    ← isBalanced_ofVerdicts before, List.getElem?_append_right (Nat.le_refl _), Nat.sub_self]
  rfl

/-- One report is the beginning of another. -/
structure Begins (r q : Report) : Prop where
  passed_le : r.passed ≤ q.passed
  failed_le : r.failed ≤ q.failed
  failures_isPrefix : r.failures <+: q.failures

theorem begins_append (r q : Report) : Begins r (r ++ q) where
  passed_le := Nat.le_add_right _ _
  failed_le := Nat.le_add_right _ _
  failures_isPrefix := List.prefix_append _ _

end Report

namespace Harness

variable {σ : Type}

/-- The report as it stands when the tests of a list are done. -/
def report (h : Harness σ) (tests : List Case) (s : σ) : Report :=
  (tests.foldl h.step (Report.empty, s)).1

theorem report_eq (h : Harness σ) (tests : List Case) (s : σ) :
    h.report tests s =
      .ofVerdicts ((tests.map fun test => test.path.text).zip (h.verdicts tests s)) :=
  h.foldl_step_fst _ _

theorem run_eq (h : Harness σ) (suites : List Suite) (s : σ) :
    h.run suites s = (h.report (Corpus.cases suites) s, h.after (Corpus.cases suites) s) :=
  Prod.ext rfl (h.run_snd suites s)

theorem after_append (h : Harness σ) (xs ys : List Case) (s : σ) :
    h.after (xs ++ ys) s = h.after ys (h.after xs s) :=
  List.foldl_append

theorem verdicts_append (h : Harness σ) (xs ys : List Case) (s : σ) :
    h.verdicts (xs ++ ys) s = h.verdicts xs s ++ h.verdicts ys (h.after xs s) := by
  induction xs generalizing s with
  | nil => rfl
  | cons test xs ih => rw [List.cons_append, verdicts, ih, verdicts, after_cons, List.cons_append]

theorem report_append (h : Harness σ) (xs ys : List Case) (s : σ) :
    h.report (xs ++ ys) s = h.report xs s ++ h.report ys (h.after xs s) := by
  rw [report_eq, report_eq, report_eq, verdicts_append, List.map_append,
    List.zip_append (by simp), Report.ofVerdicts_append]

theorem run_append (h : Harness σ) (suites more : List Suite) (s : σ) :
    h.run (suites ++ more) s =
      ((h.run suites s).1 ++ (h.run more (h.run suites s).2).1,
        (h.run more (h.run suites s).2).2) := by
  rw [run_eq, run_eq, run_eq, Corpus.cases, List.flatMap_append, report_append, after_append]
  rfl

/-- A run goes through the suites, and through the tests of each. -/
theorem run_eq_foldl (h : Harness σ) (suites : List Suite) (s : σ) :
    h.run suites s =
      suites.foldl (fun progress suite => suite.cases.foldl h.step progress)
        (Report.empty, s) :=
  List.foldl_flatMap

/-- The verdicts are those of the tests in a row. -/
theorem chain_verdicts (h : Harness σ) (tests : List Case) (s : σ) :
    Chain (fun test s verdict t => h.evaluate test s = (verdict, t)) tests s
      (h.verdicts tests s) (h.after tests s) := by
  induction tests generalizing s with
  | nil => exact .nil s
  | cons test tests ih => exact .cons rfl (ih _)

/-- Of the named verdicts as many are of a kind as of the verdicts. -/
theorem countP_named (h : Harness σ) (tests : List Case) (s : σ) (p : Verdict → Bool) :
    ((tests.map fun test => test.path.text).zip (h.verdicts tests s)).countP
        (fun verdict => p verdict.2) =
      (h.verdicts tests s).countP p := by
  have hcount := List.countP_map (p := p) (f := Prod.snd)
    (l := (tests.map fun test => test.path.text).zip (h.verdicts tests s))
  rw [map_snd_named] at hcount
  exact hcount.symm

theorem passed_report (h : Harness σ) (tests : List Case) (s : σ) :
    (h.report tests s).passed = (h.verdicts tests s).countP Verdict.isPass := by
  rw [report_eq, Report.ofVerdicts_eq]
  exact h.countP_named tests s Verdict.isPass

theorem failed_report (h : Harness σ) (tests : List Case) (s : σ) :
    (h.report tests s).failed = (h.verdicts tests s).countP fun verdict => !verdict.isPass := by
  rw [report_eq, Report.ofVerdicts_eq]
  exact h.countP_named tests s fun verdict => !verdict.isPass

theorem isBalanced_report (h : Harness σ) (tests : List Case) (s : σ) :
    (h.report tests s).IsBalanced := by
  rw [report_eq]
  exact Report.isBalanced_ofVerdicts _

/-- The message of a test that fails stands behind those of the failures before it. -/
theorem getElem?_failures_report (h : Harness σ) (before after : List Case) (test : Case)
    (s : σ) {reason : String} (hfail : (h.evaluate test (h.after before s)).1 = .fail reason) :
    (h.report (before ++ test :: after) s).failures[(h.report before s).failed]? =
      some (Report.failureMessage test.path.text reason) := by
  rw [report_eq, report_eq, verdicts_append, verdicts, hfail, List.map_append, List.map_cons,
    List.zip_append (by simp), List.zip_cons_cons]
  exact Report.getElem?_failures_ofVerdicts ..

theorem begins_report (h : Harness σ) (before after : List Case) (s : σ) :
    (h.report before s).Begins (h.report (before ++ after) s) := by
  rw [report_append]
  exact Report.begins_append _ _

/-- A run evaluates its tests one after the other, each from the state that the one before it has
left, and its report counts their verdicts and lists the failures with their reasons in this order.
How the tests are divided into suites makes no difference, a run of more suites goes on from a run
of the first ones, and what is in the report at some time is the beginning of it at any later time.
-/
theorem run_accounted (h : Harness σ) (suites : List Suite) (s : σ) :
    ∃ verdicts,
      Chain (fun test s verdict t => h.evaluate test s = (verdict, t)) (Corpus.cases suites) s
        verdicts (h.run suites s).2 ∧
      (h.run suites s).1 = .ofVerdicts
        (((Corpus.cases suites).map fun test => test.path.text).zip verdicts) ∧
      (h.run suites s).1.passed = verdicts.countP Verdict.isPass ∧
      (h.run suites s).1.failed = verdicts.countP (fun verdict => !verdict.isPass) ∧
      (h.run suites s).1.total = (Corpus.cases suites).length ∧
      (h.run suites s).1.failures.length = (h.run suites s).1.failed ∧
      (∀ before test after reason, Corpus.cases suites = before ++ test :: after →
        (h.evaluate test (h.after before s)).1 = .fail reason →
        (h.run suites s).1.failures[
            (h.verdicts before s).countP fun verdict => !verdict.isPass]? =
          some ("ERROR at " ++ test.path.text ++ ": " ++ reason)) ∧
      ((h.run suites s).1.isSuccess = true ↔ ∀ verdict ∈ verdicts, verdict = .pass) ∧
      h.run suites s = suites.foldl
        (fun progress suite => suite.cases.foldl h.step progress) (Report.empty, s) ∧
      (∀ others, Corpus.cases others = Corpus.cases suites → h.run others s = h.run suites s) ∧
      (∀ more, h.run (suites ++ more) s =
        ((h.run suites s).1 ++ (h.run more (h.run suites s).2).1,
          (h.run more (h.run suites s).2).2)) ∧
      ∀ early middle late, Corpus.cases suites = early ++ middle ++ late →
        (h.report early s).Begins (h.report (early ++ middle) s) ∧
          (h.report (early ++ middle) s).Begins (h.run suites s).1 := by
  have hrun : (h.run suites s).1 = h.report (Corpus.cases suites) s := rfl
  refine ⟨h.verdicts (Corpus.cases suites) s, ?_, h.run_fst suites s, ?_, ?_,
    h.total_run suites s, ?_, ?_, ?_, h.run_eq_foldl suites s, ?_,
    fun more => h.run_append suites more s, ?_⟩
  · rw [run_snd]
    exact h.chain_verdicts _ s
  · rw [hrun, passed_report]
  · rw [hrun, failed_report]
  · rw [hrun]
    exact h.isBalanced_report _ s
  · intro before test after reason hcases hfail
    rw [hrun, hcases, ← failed_report]
    exact h.getElem?_failures_report before after test s hfail
  · rw [isSuccess_run, allPass_iff]
  · intro others hcases
    rw [run_eq, run_eq, hcases]
  · intro early middle late hcases
    refine ⟨h.begins_report early middle s, ?_⟩
    rw [hrun, hcases]
    exact h.begins_report (early ++ middle) late s

end Harness

end Conformance
