import Conformance.Proofs.Provenance

/-!
# Nothing stale is executed

When the execution of an artifact is begun, the last command that was started is the build of the same
test, and the entry at the path of the executable is the one that this build has put there.  What was
there before does not matter, and neither does how the tests before this one have ended.
-/

namespace Conformance

namespace Provenance

variable {ε : Type}

/-- The execution of `artifact` comes after the events `before` and before the events `after`.  It is
that of the test which was begun in `s`: this test was compiled and built, and its program is started,
if it is, on an entry that the build has put. -/
structure Fresh (settings : Settings) (test : Case) (s : Scene ε) (before : List (Event ε))
    (artifact : Artifact) (after : List (Event ε)) : Prop where
  path_eq : artifact.path = settings.executable.anchored
  built : ∃ compiled built entry,
    before = s.events ++
      ([.began (.compile test.path), .started compiled, .began .build, .started built] :
        List (Event ε)) ∧
    compiled.command = settings.compiler.toCommandOn test.path ∧
    built.command = settings.build.toCommand ∧
    built.change settings.executable.anchored = .put entry ∧
    ∀ start, after.head? = some (.started start) →
      start.command = ⟨settings.executable.anchored.text, []⟩ ∧
      start.files settings.executable.anchored = some ⟨entry, some (s.events.length + 3)⟩

/-- No command is started before a stage is begun. -/
def Opens (events : List (Event ε)) : Prop :=
  ∀ start, events.head? ≠ some (.started start)

theorem opens_nil : Opens ([] : List (Event ε)) := by
  simp [Opens]

theorem opens_stage (call : StageCall) (start? : Option (Start ε)) : Opens (stage call start?) := by
  simp [Opens, stage]

theorem Opens.append {xs ys : List (Event ε)} (hx : Opens xs) (hy : Opens ys) :
    Opens (xs ++ ys) := by
  cases xs with
  | nil => exact hy
  | cons x xs => exact hx

/-! ## Executions among the events -/

/-- What can be said of an execution: the events before it, the artifact, and the events after it. -/
abbrev ExecutionProp (ε : Type) := List (Event ε) → Artifact → List (Event ε) → Prop

/-- Stages that follow change nothing. -/
def Stable (P : ExecutionProp ε) : Prop :=
  ∀ before artifact after more, Opens more → P before artifact after →
    P before artifact (after ++ more)

/-- What is started first stays so when stages follow. -/
theorem stable_fresh (settings : Settings) (test : Case) (s : Scene ε) :
    Stable (Fresh settings test s) := by
  intro before artifact after more hmore hf
  obtain ⟨compiled, built, entry, hbefore, hcompiled, hbuilt, hput, hstart⟩ := hf.built
  refine ⟨hf.path_eq, compiled, built, entry, hbefore, hcompiled, hbuilt, hput, ?_⟩
  intro start hhead
  cases after with
  | nil => exact absurd hhead (hmore start)
  | cons event after => exact hstart start hhead

/-- From `s` to `t` there are whole stages, and `P` holds of every execution that they begin. -/
def Adds (P : ExecutionProp ε) (s t : Scene ε) : Prop :=
  ∃ block, t.events = s.events ++ block ∧ Opens block ∧
    ∀ before artifact after, block = before ++ .began (.execute artifact) :: after →
      P (s.events ++ before) artifact after

namespace Adds

variable {P Q : ExecutionProp ε} {s t u : Scene ε}

theorem refl (P : ExecutionProp ε) (s : Scene ε) : Adds P s s :=
  ⟨[], by simp, opens_nil, by simp⟩

theorem mono (hPQ : ∀ before artifact after, P before artifact after → Q before artifact after)
    (ha : Adds P s t) : Adds Q s t := by
  obtain ⟨block, ht, hopens, hall⟩ := ha
  exact ⟨block, ht, hopens, fun before artifact after heq => hPQ _ _ _ (hall _ _ _ heq)⟩

theorem trans (hP : Stable P) (hst : Adds P s t) (htu : Adds P t u) : Adds P s u := by
  obtain ⟨xs, ht, hxs, hbegun⟩ := hst
  obtain ⟨ys, hu, hys, hbegun'⟩ := htu
  refine ⟨xs ++ ys, by rw [hu, ht, List.append_assoc], hxs.append hys, ?_⟩
  intro before artifact after heq
  -- The execution is begun behind `xs` or within it; then `ys` follows.
  rcases List.append_eq_append_iff.mp heq with ⟨c, rfl, hc⟩ | ⟨c, rfl, hc⟩
  · rw [← List.append_assoc, ← ht]
    exact hbegun' c artifact after hc
  · cases c with
    | nil =>
        have hfirst := hbegun' [] artifact after hc.symm
        simpa [ht] using hfirst
    | cons event c =>
        obtain ⟨rfl, rfl⟩ := List.cons.inj hc
        exact hP _ _ _ _ hys (hbegun before artifact c rfl)

theorem stage {call : StageCall} {start? : Option (Start ε)}
    (hcall : ∀ artifact, call ≠ .execute artifact)
    (ht : t.events = s.events ++ Provenance.stage call start?) : Adds P s t := by
  refine ⟨_, ht, opens_stage _ _, fun before artifact after heq => ?_⟩
  exact absurd (stage_eq_append heq).2.1.symm (hcall artifact)

end Adds

namespace World

variable {w : World ε} {settings : Settings}
  {contents : Path → Session (Scene ε) → Except IoError Bytes} {test : Case}
  {x x₁ x₂ y : Session (Scene ε)}

theorem compile_adds {P : ExecutionProp ε} {source : Path} {result : Except Fault Capture}
    (hcompile : (w.tools settings).compile source x = (result, y)) : Adds P x.state y.state := by
  obtain rfl | ⟨start?, hy⟩ := compile_events hcompile
  · exact .refl _ _
  · exact .stage (by simp) hy

theorem build_adds {P : ExecutionProp ε} {result : Except Fault Artifact}
    (hbuild : (w.tools settings).build x = (result, y)) : Adds P x.state y.state := by
  obtain rfl | ⟨start?, hy⟩ := build_events hbuild
  · exact .refl _ _
  · exact .stage (by simp) hy

theorem execute_adds {capture : Capture} {artifact : Artifact} {result : Except Fault Capture}
    (hcompile : (w.tools settings).compile test.path x = (.ok capture, x₁))
    (hbuild : (w.tools settings).build x₁ = (.ok artifact, x₂))
    (hexecute : (w.tools settings).execute artifact x₂ = (result, y)) :
    Adds (Fresh settings test x.state) x₂.state y.state := by
  obtain ⟨compiled, hcompiled, hx₁⟩ := compile_ok hcompile
  obtain ⟨rfl, built, entry, hbuilt, hx₂, hput, hplaced⟩ := build_ok hbuild
  obtain rfl | ⟨start?, hy, hstart⟩ := execute_events hexecute
  · exact .refl _ _
  refine ⟨_, hy, opens_stage _ _, fun before artifact after heq => ?_⟩
  obtain ⟨rfl, hcall, rfl⟩ := stage_eq_append heq
  obtain rfl := StageCall.execute.inj hcall
  refine ⟨rfl, compiled, built, entry, by simp [hx₂, hx₁, stage], hcompiled, hbuilt, hput, ?_⟩
  intro start hhead
  have hmem : start ∈ start? := by
    cases start? <;> simp_all
  obtain ⟨hcommand, hfiles⟩ := hstart start hmem
  refine ⟨hcommand, ?_⟩
  rw [hfiles, hplaced, hx₁]
  simp [stage]

/-- The evaluation of a test begins no execution but of what its own build has put in place. -/
theorem evaluate_adds (w : World ε) (settings : Settings)
    (contents : Path → Session (Scene ε) → Except IoError Bytes) (test : Case)
    (x : Session (Scene ε)) : Adds (Fresh settings test x.state) x.state
      ((w.harness settings contents).evaluate test x).2.state := by
  have hstable := stable_fresh settings test x.state
  obtain ⟨calls, verdict, y, he⟩ := (w.harness settings contents).exists_evaluates test x
  rw [he.evaluate_eq]
  cases he with
  | unread hread => exact .refl _ _
  | uncompiled hread hcompile => exact compile_adds hcompile
  | malformed hread hcompile hsignal => exact compile_adds hcompile
  | judgedCode hread hcompile hsignal => exact compile_adds hcompile
  | refused hread hcompile hsignal => exact compile_adds hcompile
  | unbuilt hread hcompile hsignal hbuild =>
      exact (compile_adds hcompile).trans hstable (build_adds hbuild)
  | unexecuted hread hcompile hsignal hbuild hexecute =>
      exact ((compile_adds hcompile).trans hstable (build_adds hbuild)).trans hstable
        (execute_adds hcompile hbuild hexecute)
  | judgedValue hread hcompile hsignal hbuild hexecute =>
      exact ((compile_adds hcompile).trans hstable (build_adds hbuild)).trans hstable
        (execute_adds hcompile hbuild hexecute)

theorem after_adds (w : World ε) (settings : Settings)
    (contents : Path → Session (Scene ε) → Except IoError Bytes) (tests : List Case)
    (x : Session (Scene ε)) :
    Adds (fun before artifact after => ∃ done test rest, tests = done ++ test :: rest ∧
      Fresh settings test ((w.harness settings contents).after done x).state before artifact after)
      x.state ((w.harness settings contents).after tests x).state := by
  induction tests generalizing x with
  | nil => exact .refl _ _
  | cons test tests ih =>
      refine Adds.trans ?_ ((w.evaluate_adds settings contents test x).mono ?_) ((ih _).mono ?_)
      · rintro before artifact after more hmore ⟨done, test', rest, heq, hf⟩
        exact ⟨done, test', rest, heq, stable_fresh _ _ _ _ _ _ _ hmore hf⟩
      · intro before artifact after hf
        exact ⟨[], test, tests, rfl, hf⟩
      · rintro before artifact after ⟨done, test', rest, rfl, hf⟩
        exact ⟨test :: done, test', rest, rfl, hf⟩

/-- A build whose command, if it was started at all, puts nothing at the path of the executable
fails, whatever was there before. -/
theorem build_eq_error_of_not_put {result : Except Fault Artifact}
    (hbuild : (w.tools settings).build x = (result, y))
    (hnot : ∀ built, y.state.events = x.state.events ++ stage .build (some built) →
      ∀ entry, built.change settings.executable.anchored ≠ .put entry) :
    ∃ fault, result = .error fault := by
  cases result with
  | error fault => exact ⟨fault, rfl⟩
  | ok artifact =>
      obtain ⟨_, built, entry, _, hevents, hput, _⟩ := build_ok hbuild
      exact absurd hput (hnot built hevents entry)

/-- Whatever the commands do and whatever files there are at first, every execution in a run is of
what the build of the same test has put at the path of the executable after its compilation; and a
build that puts nothing there fails and is followed by no execution. -/
theorem run_fresh (w : World ε) (settings : Settings)
    (contents : Path → Session (Scene ε) → Except IoError Bytes) (suites : List Suite)
    (files : Files ε) :
    (∀ before artifact after,
      ((w.harness settings contents).run suites (.going ⟨files, []⟩)).2.state.events =
        before ++ .began (.execute artifact) :: after →
      ∃ done test rest, Corpus.cases suites = done ++ test :: rest ∧
        Fresh settings test ((w.harness settings contents).after done (.going ⟨files, []⟩)).state
          before artifact after) ∧
    ∀ x result y, (w.tools settings).build x = (result, y) →
      (∀ built, y.state.events = x.state.events ++ stage .build (some built) →
        ∀ entry, built.change settings.executable.anchored ≠ .put entry) →
      ∃ fault, result = .error fault ∧
        (w.harness settings contents).produce x = (.error fault, y) := by
  refine ⟨fun before artifact after heq => ?_, fun x result y hbuild hnot => ?_⟩
  · obtain ⟨block, hblock, _, hbegun⟩ :=
      w.after_adds settings contents (Corpus.cases suites) (.going ⟨files, []⟩)
    rw [Harness.run_snd, hblock] at heq
    simpa [Session.going] using hbegun before artifact after heq
  · obtain ⟨fault, rfl⟩ := build_eq_error_of_not_put hbuild hnot
    refine ⟨fault, rfl, ?_⟩
    rw [Harness.produce, show (w.harness settings contents).tools.build x = _ from hbuild]

/-- A world where what is there can be removed and every command ends at once.  A command puts what
`product` says and leaves the rest alone. -/
def prompt (product : Command → Path → Option ε) : World ε where
  unlink s path :=
    if (s.files path).isSome then .ok fun other => if other = path then none else s.files other
    else .error (.os .noEntry)
  isFile s path := (s.files path).isSome
  clock _ := 0
  conduct command _ _ := .ok ⟨⟨some (0, .ok (.code 0)), some (0, []), some 0⟩, fun _ path =>
    match product command path with
    | some entry => .put entry
    | none => .keep⟩
  unlink_ok hunlink := by
    split at hunlink
    · cases hunlink
      simp
    · cases hunlink
  unlink_noEntry hunlink := by
    split at hunlink
    · cases hunlink
    · rename_i hnone
      simpa using hnone
  isSome_of_isFile hfile := hfile

/-- A leftover is replaced before the test is executed. -/
theorem run_fresh_leftover :
    let w : World String := prompt fun command path =>
      if command.program = "./build.sh" ∧ path = ⟨"./a.out"⟩ then some "new" else none
    let h := w.harness .standard fun _ _ => .ok [0x37]
    let suites : List Suite := [⟨"x", [⟨⟨"a.sc"⟩, "x"⟩]⟩]
    let files : Files String := fun path =>
      if path = ⟨"./a.out"⟩ then some ⟨"old", none⟩ else none
    ∃ before artifact after,
      (h.run suites (.going ⟨files, []⟩)).2.state.events = before ++ .began (.execute artifact) :: after ∧
      ∃ done test rest, Corpus.cases suites = done ++ test :: rest ∧
        Fresh .standard test (h.after done (.going ⟨files, []⟩)).state before artifact after := by
  intro w h suites files
  have hcalls : (h.run suites (.going ⟨files, []⟩)).2.state.events.filterMap Event.call? =
      [.compile ⟨"a.sc"⟩, .build, .execute ⟨⟨"./a.out"⟩, true⟩] := by
    decide +kernel
  have hmem : .began (.execute ⟨⟨"./a.out"⟩, true⟩) ∈ (h.run suites (.going ⟨files, []⟩)).2.state.events := by
    have hlast : StageCall.execute ⟨⟨"./a.out"⟩, true⟩ ∈
        (h.run suites (.going ⟨files, []⟩)).2.state.events.filterMap Event.call? := by simp [hcalls]
    obtain ⟨event, hevent, hcall⟩ := List.mem_filterMap.mp hlast
    cases event with
    | began call =>
        cases hcall
        exact hevent
    | started start => cases hcall
  obtain ⟨before, after, hsplit⟩ := List.append_of_mem hmem
  exact ⟨before, _, after, hsplit,
    (run_fresh w .standard (fun _ _ => .ok [0x37]) suites files).1 before _ after hsplit⟩

end World

end Provenance

end Conformance
