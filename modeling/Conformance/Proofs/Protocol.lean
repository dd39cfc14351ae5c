import Conformance.Proofs.Evaluation

/-!
# The protocol of the stages

The stage calls of a run are one block for each test, in the order of the tests.  A block is empty,
or compiles the source of its test, and only a test that expects a value from a source that compiled
goes on: to a build, and from there to the execution of what this build has handed out.
-/

namespace Conformance

namespace StageCall

/-- The source that a call compiles. -/
def source? : StageCall → Option Path
  | compile source => some source
  | build | execute _ => none

/-- The artifact that a call executes. -/
def artifact? : StageCall → Option Artifact
  | execute artifact => some artifact
  | compile _ | build => none

end StageCall

namespace Harness

variable {σ : Type} {h : Harness σ} {test : Case} {s t : σ} {block : List StageCall}

/-- The stage calls that belong to a test which is begun in `s` and ended in `t`. -/
inductive IsBlock (h : Harness σ) (test : Case) (s : σ) : List StageCall → σ → Prop
  | unread {fault : Fault} (hread : h.expectation test s = .error fault) : IsBlock h test s [] s
  | compiled {e : Expectation} {result : Except Fault Capture} {t : σ}
      (hread : h.expectation test s = .ok e)
      (hcompile : h.tools.compile test.path s = (result, t))
      (hstop : (∃ code, e = .error code) ∨ (∃ fault, result = .error fault) ∨
        ∃ capture, result = .ok capture ∧
          CompileOutcome.ofLines capture.lines ≠ .ok .success) :
      IsBlock h test s [.compile test.path] t
  | built {text : String} {capture : Capture} {fault : Fault} {s₁ t : σ}
      (hread : h.expectation test s = .ok (.value text))
      (hcompile : h.tools.compile test.path s = (.ok capture, s₁))
      (hsignal : CompileOutcome.ofLines capture.lines = .ok .success)
      (hbuild : h.tools.build s₁ = (.error fault, t)) :
      IsBlock h test s [.compile test.path, .build] t
  | executed {text : String} {capture : Capture} {artifact : Artifact}
      {result : Except Fault Capture} {s₁ s₂ t : σ}
      (hread : h.expectation test s = .ok (.value text))
      (hcompile : h.tools.compile test.path s = (.ok capture, s₁))
      (hsignal : CompileOutcome.ofLines capture.lines = .ok .success)
      (hbuild : h.tools.build s₁ = (.ok artifact, s₂))
      (hexecute : h.tools.execute artifact s₂ = (result, t)) :
      IsBlock h test s [.compile test.path, .build, .execute artifact] t

theorem Evaluates.isBlock {calls : List StageCall} {verdict : Verdict}
    (he : h.Evaluates test s calls verdict t) : h.IsBlock test s calls t := by
  cases he with
  | unread hread => exact .unread hread
  | uncompiled hread hcompile => exact .compiled hread hcompile (.inr (.inl ⟨_, rfl⟩))
  | malformed hread hcompile hsignal =>
      exact .compiled hread hcompile (.inr (.inr ⟨_, rfl, by simp [hsignal]⟩))
  | judgedCode hread hcompile hsignal => exact .compiled hread hcompile (.inl ⟨_, rfl⟩)
  | refused hread hcompile hsignal =>
      exact .compiled hread hcompile (.inr (.inr ⟨_, rfl, by simp [hsignal]⟩))
  | unbuilt hread hcompile hsignal hbuild => exact .built hread hcompile hsignal hbuild
  | unexecuted hread hcompile hsignal hbuild hexecute =>
      exact .executed hread hcompile hsignal hbuild hexecute
  | judgedValue hread hcompile hsignal hbuild hexecute =>
      exact .executed hread hcompile hsignal hbuild hexecute

/-- The test expects a value, and its source compiles from `s` without a failure signal. -/
def Proceeds (h : Harness σ) (test : Case) (s : σ) : Prop :=
  ∃ text capture, h.expectation test s = .ok (.value text) ∧
    (h.tools.compile test.path s).1 = .ok capture ∧
    CompileOutcome.ofLines capture.lines = .ok .success

theorem Proceeds.not_stop (hp : h.Proceeds test s) {e : Expectation}
    {result : Except Fault Capture} (hread : h.expectation test s = .ok e)
    (hcompile : h.tools.compile test.path s = (result, t)) :
    ¬ ((∃ code, e = .error code) ∨ (∃ fault, result = .error fault) ∨
      ∃ capture, result = .ok capture ∧
        CompileOutcome.ofLines capture.lines ≠ .ok .success) := by
  obtain ⟨text, capture, hread', hcompile', hsignal⟩ := hp
  obtain rfl : e = .value text := Except.ok.inj (hread.symm.trans hread')
  obtain rfl : result = .ok capture := by rw [← hcompile', hcompile]
  rintro (⟨code, hcode⟩ | ⟨fault, hfault⟩ | ⟨other, hother, hne⟩)
  · cases hcode
  · cases hfault
  · cases hother
    exact hne hsignal

theorem IsBlock.unique {other : List StageCall} {u : σ} (hb : h.IsBlock test s block t)
    (hc : h.IsBlock test s other u) : block = other ∧ t = u := by
  cases hb with
  | unread hread => cases hc <;> simp_all
  | compiled hread hcompile hstop =>
      cases hc with
      | unread hread' => simp_all
      | compiled hread' hcompile' hstop' => simp_all
      | built hread' hcompile' hsignal' hbuild' =>
          exact absurd hstop (Proceeds.not_stop
            ⟨_, _, hread', congrArg Prod.fst hcompile', hsignal'⟩ hread hcompile)
      | executed hread' hcompile' hsignal' hbuild' hexecute' =>
          exact absurd hstop (Proceeds.not_stop
            ⟨_, _, hread', congrArg Prod.fst hcompile', hsignal'⟩ hread hcompile)
  | built hread hcompile hsignal hbuild =>
      cases hc with
      | unread hread' => simp_all
      | compiled hread' hcompile' hstop' =>
          exact absurd hstop' (Proceeds.not_stop
            ⟨_, _, hread, congrArg Prod.fst hcompile, hsignal⟩ hread' hcompile')
      | built hread' hcompile' hsignal' hbuild' => simp_all
      | executed hread' hcompile' hsignal' hbuild' hexecute' => simp_all
  | executed hread hcompile hsignal hbuild hexecute =>
      cases hc with
      | unread hread' => simp_all
      | compiled hread' hcompile' hstop' =>
          exact absurd hstop' (Proceeds.not_stop
            ⟨_, _, hread, congrArg Prod.fst hcompile, hsignal⟩ hread' hcompile')
      | built hread' hcompile' hsignal' hbuild' => simp_all
      | executed hread' hcompile' hsignal' hbuild' hexecute' => simp_all

/-- What the build gives that comes right after the compilation of a test's source. -/
def built (h : Harness σ) (test : Case) (s : σ) : Except Fault Artifact :=
  (h.tools.build (h.tools.compile test.path s).2).1

/-- What a block keeps to. -/
structure Orderly (h : Harness σ) (test : Case) (s : σ) (block : List StageCall) : Prop where
  /-- No other source is compiled, and this one at most once. -/
  sources : block.filterMap StageCall.source? = [] ∨
    block.filterMap StageCall.source? = [test.path]
  /-- The later stages are only for a test that proceeds. -/
  proceeds : ∀ call ∈ block, call.source? = none → h.Proceeds test s
  /-- What is executed, and executed once, is what the build of the same test has handed out. -/
  artifacts : block.filterMap StageCall.artifact? =
    if .build ∈ block then (h.built test s).toOption.toList else []

theorem IsBlock.orderly (hb : h.IsBlock test s block t) : h.Orderly test s block := by
  cases hb with
  | unread hread => exact ⟨.inl rfl, by simp, rfl⟩
  | compiled hread hcompile hstop => exact ⟨.inr rfl, by simp [StageCall.source?], rfl⟩
  | built hread hcompile hsignal hbuild =>
      refine ⟨.inr rfl, fun _ _ _ => ⟨_, _, hread, congrArg Prod.fst hcompile, hsignal⟩, ?_⟩
      rw [if_pos (by simp), Harness.built, hcompile, hbuild]
      rfl
  | executed hread hcompile hsignal hbuild hexecute =>
      refine ⟨.inr rfl, fun _ _ _ => ⟨_, _, hread, congrArg Prod.fst hcompile, hsignal⟩, ?_⟩
      rw [if_pos (by simp), Harness.built, hcompile, hbuild]
      rfl

theorem sublist_sources {tests : List Case} {blocks : List (List StageCall)}
    (hc : Chain (fun test s block _ => h.Orderly test s block) tests s blocks t) :
    (blocks.flatten.filterMap StageCall.source?).Sublist (tests.map Case.path) := by
  induction hc with
  | nil s => simp
  | cons hstep _ ih =>
      rw [List.flatten_cons, List.filterMap_append, List.map_cons]
      rcases hstep.sources with hnone | hone
      · rw [hnone, List.nil_append]
        exact ih.cons _
      · rw [hone, List.singleton_append]
        exact ih.cons_cons _

theorem foldl_step_traced {tests : List Case} {turns : List (List StageCall × Verdict)}
    (hc : Chain (fun test s (turn : List StageCall × Verdict) t =>
      h.Evaluates test s turn.1 turn.2 t) tests s turns t)
    (report : Report) (log : List StageCall) :
    tests.foldl h.traced.step (report, s, log) =
      ((tests.foldl h.step (report, s)).1, t, log ++ (turns.map Prod.fst).flatten) := by
  induction hc generalizing report log with
  | nil s => simp
  | cons hstep _ ih =>
      rw [List.foldl_cons, List.foldl_cons, step, step, (hstep.traced log).evaluate_eq,
        hstep.evaluate_eq, ih, List.map_cons, List.flatten_cons, List.append_assoc]

/-- The stage calls of a run are the blocks of its tests, one for each and in their order, whatever
the toolchain answers. -/
theorem run_traced (h : Harness σ) (suites : List Suite) (s : σ) :
    ∃ blocks,
      h.traced.run suites (s, []) =
        ((h.run suites s).1, (h.run suites s).2, blocks.flatten) ∧
      Chain h.IsBlock (Corpus.cases suites) s blocks (h.run suites s).2 ∧
      (∀ others t, Chain h.IsBlock (Corpus.cases suites) s others t → others = blocks) ∧
      (blocks.flatten.filterMap StageCall.source?).Sublist
        ((Corpus.cases suites).map Case.path) ∧
      Chain (fun test s block _ => h.Orderly test s block) (Corpus.cases suites) s blocks
        (h.run suites s).2 := by
  obtain ⟨turns, hturns⟩ := h.exists_chain_evaluates (Corpus.cases suites) s
  rw [← run_snd] at hturns
  have hblocks : Chain h.IsBlock (Corpus.cases suites) s (turns.map Prod.fst)
      (h.run suites s).2 := hturns.map fun _ _ _ _ he => he.isBlock
  have horderly : Chain (fun test s block _ => h.Orderly test s block) (Corpus.cases suites) s
      (turns.map Prod.fst) (h.run suites s).2 :=
    hturns.map fun _ _ _ _ he => he.isBlock.orderly
  refine ⟨turns.map Prod.fst, ?_, hblocks, ?_, sublist_sources horderly, horderly⟩
  · exact foldl_step_traced hturns Report.empty []
  · intro others t hothers
    exact (hothers.unique (fun hb hc => hb.unique hc) hblocks).1

end Harness

end Conformance
