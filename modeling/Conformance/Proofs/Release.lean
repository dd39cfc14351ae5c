import Conformance.Proofs.Accounting
import Conformance.Proofs.Freshness
import Conformance.Proofs.Protocol
import Conformance.Proofs.Stage

/-!
# What a test leaves behind

An artifact is released when its execution is over, however that has gone.  But there is an artifact
only where the command of the build has come to its end: what a build has put at the path of the
executable before its time was up, or before the wait for it failed, is left there.  In every other way
through a build nothing is left.
-/

namespace Conformance

theorem Harness.Proceeds.evaluate_snd {σ : Type} {h : Harness σ} {test : Case} {s : σ}
    (hp : h.Proceeds test s) :
    (h.evaluate test s).2 = (h.produce (h.tools.compile test.path s).2).2 := by
  obtain ⟨text, capture, hread, hcompile, hsignal⟩ := hp
  rcases hcompiled : h.tools.compile test.path s with ⟨result, t⟩
  obtain rfl : result = .ok capture := by rw [← hcompile, hcompiled]
  rw [produce]
  rcases hbuild : h.tools.build t with ⟨fault | artifact, u⟩
  · rw [(Evaluates.unbuilt hread hcompiled hsignal hbuild).evaluate_eq]
  rcases hexecute : h.tools.execute artifact u with ⟨fault | output, v⟩
  · rw [(Evaluates.unexecuted hread hcompiled hsignal hbuild hexecute).evaluate_eq]
    exact (congrArg Prod.snd hexecute).symm
  · rw [(Evaluates.judgedValue hread hcompiled hsignal hbuild hexecute).evaluate_eq]
    exact (congrArg Prod.snd hexecute).symm

namespace Provenance

namespace World

variable {ε : Type} {w : World ε} {settings : Settings}
  {contents : Path → Session (Scene ε) → Except IoError Bytes} {test : Case} {path : Path}
  {s t u : Scene ε} {x : Session (Scene ε)}

theorem isFile_of_free (hfree : s.files path = none) : w.isFile s path = false := by
  rw [← Bool.not_eq_true]
  intro hfile
  have hsome := w.isSome_of_isFile hfile
  rw [hfree] at hsome
  cases hsome

theorem isFile_release (hremove : w.isFile s path = true → ∃ files, w.unlink s path = .ok files) :
    w.isFile (w.host.release ⟨path, true⟩ s) path = false := by
  cases hunlink : w.unlink s path with
  | ok files =>
      have hrelease : w.host.release ⟨path, true⟩ s = { s with files := files } := by
        simp [Host.release, host, hunlink, Except.map]
      rw [hrelease]
      exact isFile_of_free (w.unlink_ok hunlink)
  | error cause =>
      have hrelease : w.host.release ⟨path, true⟩ s = s := by
        simp [Host.release, host, hunlink, Except.map]
      rw [hrelease, ← Bool.not_eq_true]
      intro hfile
      obtain ⟨files, hok⟩ := hremove hfile
      rw [hunlink] at hok
      cases hok

/-- The command of a build that starts in a scene is out of time, and a file stands at the path of
the executable when it is taken away. -/
def LeavesOvertime (w : World ε) (settings : Settings) (s : Scene ε) : Prop :=
  ∃ t, w.host.capture settings.limit (toString settings.build) settings.build.toCommand s =
      .returned (.error (.overtime (toString settings.build) (settings.limit.getD ⟨0⟩))) t ∧
    w.isFile t settings.executable.anchored = true

/-- The wait for the command of a build that starts in a scene fails, and a file stands at the path of
the executable when it is taken away. -/
def LeavesFailed (w : World ε) (settings : Settings) (s : Scene ε) : Prop :=
  ∃ cause t, w.host.capture settings.limit (toString settings.build) settings.build.toCommand s =
      .returned (.error (.invocation (toString settings.build) cause)) t ∧
    w.isFile t settings.executable.anchored = true

/-- The command of a build that starts in a scene leaves a file and no artifact. -/
def Leaves (w : World ε) (settings : Settings) (s : Scene ε) : Prop :=
  w.LeavesOvertime settings s ∨ w.LeavesFailed settings s

theorem Leaves.exists_capture (hleaves : w.Leaves settings s) : ∃ fault t,
    w.host.capture settings.limit (toString settings.build) settings.build.toCommand s =
      .returned (.error fault) t ∧ w.isFile t settings.executable.anchored = true := by
  obtain ⟨t, hcapture, hfile⟩ | ⟨cause, t, hcapture, hfile⟩ := hleaves
  · exact ⟨_, t, hcapture, hfile⟩
  · exact ⟨_, t, hcapture, hfile⟩

/-- A build without a result leaves a file just where its command was stopped. -/
theorem isFile_of_failed {fault : Fault}
    (hcapture : w.host.capture settings.limit (toString settings.build) settings.build.toCommand s =
      .returned (.error fault) t) :
    w.isFile t settings.executable.anchored = true ↔ w.Leaves settings s := by
  constructor
  · intro hfile
    cases Host.captures_of_eq hcapture with
    | notStarted => exact .inr ⟨_, _, hcapture, hfile⟩
    | failed => exact .inr ⟨_, _, hcapture, hfile⟩
    | overtime => exact .inl ⟨_, hcapture, hfile⟩
  · intro hleaves
    obtain ⟨_, v, hover, hfile⟩ := hleaves.exists_capture
    cases hcapture.symm.trans hover
    exact hfile

theorem not_leaves_of_ok {capture : Capture}
    (hcapture : w.host.capture settings.limit (toString settings.build) settings.build.toCommand s =
      .returned (.ok capture) t) : ¬ w.Leaves settings s := by
  intro hleaves
  obtain ⟨_, _, hover, _⟩ := hleaves.exists_capture
  cases hcapture.symm.trans hover

theorem isFile_of_aborted (hfree : s.files settings.executable.anchored = none)
    (hcapture : w.host.capture settings.limit (toString settings.build) settings.build.toCommand s =
      .stopped .aborted t) :
    w.isFile t settings.executable.anchored = true ↔ w.Leaves settings s := by
  refine iff_of_false ?_ fun hleaves => ?_
  · cases Host.captures_of_eq hcapture with
    | aborted => simp [isFile_of_free hfree]
  · obtain ⟨_, _, hover, _⟩ := hleaves.exists_capture
    cases hcapture.symm.trans hover

/-- After the execution of an owned artifact its file is gone, unless the execution never ends. -/
theorem isFile_execute
    (hremove : ∀ s, w.isFile s path = true → ∃ files, w.unlink s path = .ok files)
    (hends : (w.host.execute settings ⟨path, true⟩ s).stop? ≠ some .endless) :
    w.isFile (w.host.execute settings ⟨path, true⟩ s).state path = false := by
  generalize hexecute : w.host.execute settings ⟨path, true⟩ s = reply at hends ⊢
  cases Host.executes_of_eq hexecute with
  | @returned _ t hcapture => exact isFile_release (hremove t)
  | @aborted t hcapture => exact isFile_release (hremove t)
  | endless => exact absurd rfl hends

/-- After a build that was begun on a free path, and the execution if there was one, there is a file
at this path just where the command of the build was stopped and has left one. -/
theorem isFile_produce_iff
    (hremove : ∀ s, w.isFile s settings.executable.anchored = true →
      ∃ files, w.unlink s settings.executable.anchored = .ok files)
    (hgoes : x.stop? = none)
    (hclear : w.host.clear settings.executable.anchored (x.state.begin .build) = .ok u)
    (hends : ((w.harness settings contents).produce x).2.stop? ≠ some .endless) :
    w.isFile ((w.harness settings contents).produce x).2.state settings.executable.anchored = true ↔
      w.Leaves settings u := by
  obtain ⟨hfree, _⟩ := clear_ok hclear
  rw [Session.eq_going hgoes] at hends ⊢
  have htools : (w.harness settings contents).tools.build (.going x.state) =
      Session.stage (w.host.build settings) (.going (x.state.begin .build)) := rfl
  rw [Harness.produce, htools, Session.stage, Session.going] at hends ⊢
  generalize hbuild : w.host.build settings (x.state.begin .build) = reply at hends ⊢
  cases Host.builds_of_eq hbuild with
  | stale hclear' => cases hclear.symm.trans hclear'
  | @stopped how _ t hclear' hcapture =>
      obtain rfl := Except.ok.inj (hclear.symm.trans hclear')
      cases how with
      | aborted => exact isFile_of_aborted hfree hcapture
      | endless => exact absurd rfl hends
  | failed hclear' hcapture =>
      obtain rfl := Except.ok.inj (hclear.symm.trans hclear')
      exact isFile_of_failed hcapture
  | @missing _ _ t hclear' hcapture hfile =>
      obtain rfl := Except.ok.inj (hclear.symm.trans hclear')
      have hnone : w.isFile t settings.executable.anchored = false := hfile
      simp [Session.going, hnone, not_leaves_of_ok hcapture]
  | @built _ _ t hclear' hcapture hfile =>
      obtain rfl := Except.ok.inj (hclear.symm.trans hclear')
      have hexecute : ((w.harness settings contents).tools.execute
          ⟨settings.executable.anchored, true⟩ (.going t)).2 =
            ⟨(w.host.execute settings ⟨settings.executable.anchored, true⟩
                (t.begin (.execute ⟨settings.executable.anchored, true⟩))).state,
              (w.host.execute settings ⟨settings.executable.anchored, true⟩
                (t.begin (.execute ⟨settings.executable.anchored, true⟩))).stop?⟩ :=
        Session.stage_snd_going _ _
      rw [hexecute] at hends ⊢
      simp [isFile_execute hremove hends, not_leaves_of_ok hcapture]

/-- A test that proceeds to a build on a free path and does not wait for ever leaves a file at this path
just where its build was out of time, or the wait for it failed, and it had put one there, whatever comes
of the build and of the execution otherwise.  If the last test of a run is such a test, so does the
run. -/
theorem evaluate_releases (w : World ε) (settings : Settings)
    (contents : Path → Session (Scene ε) → Except IoError Bytes)
    (hremove : ∀ s, w.isFile s settings.executable.anchored = true →
      ∃ files, w.unlink s settings.executable.anchored = .ok files) :
    let h := w.harness settings contents
    let cleared (test : Case) (x : Session (Scene ε)) := w.host.clear settings.executable.anchored
      ((h.tools.compile test.path x).2.state.begin .build)
    (∀ test x u, h.Proceeds test x → cleared test x = .ok u →
      (h.evaluate test x).2.stop? ≠ some .endless →
      (w.isFile (h.evaluate test x).2.state settings.executable.anchored = true ↔
        w.LeavesOvertime settings u ∨ w.LeavesFailed settings u)) ∧
    ∀ suites done test x u, Corpus.cases suites = done ++ [test] →
      h.Proceeds test (h.after done x) → cleared test (h.after done x) = .ok u →
      (h.run suites x).2.stop? ≠ some .endless →
      (w.isFile (h.run suites x).2.state settings.executable.anchored = true ↔
        w.LeavesOvertime settings u ∨ w.LeavesFailed settings u) := by
  intro h cleared
  have hstep : ∀ test x u, h.Proceeds test x → cleared test x = .ok u →
      (h.evaluate test x).2.stop? ≠ some .endless →
      (w.isFile (h.evaluate test x).2.state settings.executable.anchored = true ↔
        w.LeavesOvertime settings u ∨ w.LeavesFailed settings u) := by
    intro test x u hproceeds hclear hends
    rw [hproceeds.evaluate_snd] at hends ⊢
    refine isFile_produce_iff hremove ?_ hclear hends
    obtain ⟨_, capture, _, hcompile, _⟩ := hproceeds
    rcases hcompiled : h.tools.compile test.path x with ⟨result, y⟩
    obtain rfl : result = .ok capture := by rw [← hcompile, hcompiled]
    obtain ⟨_, -, rfl, -⟩ := Session.stage_alter_eq_ok hcompiled
    rfl
  refine ⟨hstep, fun suites done test x u hcases hproceeds hclear hends => ?_⟩
  rw [Harness.run_snd, hcases, Harness.after_append] at hends ⊢
  exact hstep test (h.after done x) u hproceeds hclear hends

/-- The same world with other courses of the commands. -/
def withCourse (w : World ε) (course : Command → Course) : World ε :=
  { w with conduct := fun command until? s =>
      (w.conduct command until? s).map fun conduct => { conduct with course := course command } }

/-- A world where the build puts an executable in place, and comes to its end or does not. -/
def workshop (endless : Bool) : World String :=
  (prompt fun command path =>
    if command.program = "./build.sh" ∧ path = ⟨"./a.out"⟩ then some "new" else none).withCourse
    fun command =>
      if endless && command.program == "./build.sh" then ⟨none, none, none⟩
      else ⟨some (0, .ok (.code 0)), some (0, []), some 0⟩

theorem unlink_workshop {endless : Bool} {s : Scene String} {path : Path}
    (hfile : (workshop endless).isFile s path = true) :
    ∃ files, (workshop endless).unlink s path = .ok files := by
  have hsome : (s.files path).isSome = true := hfile
  simp [workshop, withCourse, prompt, hsome]

/-- The harness at work in the workshop. -/
def workshopHarness (endless : Bool) : Harness (Session (Scene String)) :=
  (workshop endless).harness .standard fun _ _ => .ok [0x37]

/-- The test in the workshop, and the session in which it starts. -/
def workshopCase : Case := ⟨⟨"a.sc"⟩, "x"⟩

def workshopSession : Session (Scene String) := .going ⟨fun _ => none, []⟩

theorem proceeds_workshop (endless : Bool) :
    (workshopHarness endless).Proceeds workshopCase workshopSession := by
  refine ⟨"7", .ofOutput (.code 0) [], rfl, ?_, rfl⟩
  cases endless <;> rfl

/-- The scene in which the build is begun. -/
def workshopBuild (endless : Bool) : Scene String :=
  ((workshopHarness endless).tools.compile workshopCase.path workshopSession).2.state.begin .build

theorem clear_workshopBuild (endless : Bool) :
    (workshop endless).host.clear ⟨"./a.out"⟩ (workshopBuild endless) =
      .ok (workshopBuild endless) := by
  cases endless <;> rfl

theorem leaves_workshop_iff (endless : Bool) :
    (workshop endless).Leaves .standard (workshopBuild endless) ↔ endless = true := by
  cases endless with
  | false =>
      have hcapture : (workshop false).host.capture Settings.standard.limit
          (toString Settings.standard.build) Settings.standard.build.toCommand
          (workshopBuild false) = .returned (.ok (.ofOutput (.code 0) [])) _ := rfl
      simp [not_leaves_of_ok hcapture]
  | true => exact iff_of_true (.inl ⟨_, rfl, rfl⟩) rfl

/-- The executable is released if the build has come to its end, and otherwise the run leaves it. -/
theorem evaluate_releases_workshop :
    (workshop false).isFile ((workshopHarness false).evaluate workshopCase workshopSession).2.state
        ⟨"./a.out"⟩ = false ∧
      (workshop true).isFile
        ((workshopHarness true).run [⟨"x", [workshopCase]⟩] workshopSession).2.state
        ⟨"./a.out"⟩ = true := by
  have hreleases (endless : Bool) := evaluate_releases (workshop endless) .standard
    (fun _ _ => .ok [0x37]) fun _ => unlink_workshop
  constructor
  · rw [← Bool.not_eq_true]
    intro hfile
    have hleaves := ((hreleases false).1 workshopCase workshopSession _ (proceeds_workshop false)
      (clear_workshopBuild false) (by decide +kernel)).mp hfile
    exact absurd ((leaves_workshop_iff false).mp hleaves) (by decide)
  · exact ((hreleases true).2 [⟨"x", [workshopCase]⟩] [] workshopCase workshopSession _ rfl
      (proceeds_workshop true) (clear_workshopBuild true) (by decide +kernel)).mpr
        ((leaves_workshop_iff true).mpr rfl)

/-- What a build that never ends has put in place stays there, although the test went on to it and
nothing stood in its way. -/
theorem evaluate_leaves_executable :
    (workshopHarness true).Proceeds workshopCase workshopSession ∧
      ((workshopHarness true).evaluate workshopCase workshopSession).1 =
        .fail "`./build.sh` did not finish within 60s" ∧
      (workshop true).isFile ((workshopHarness true).evaluate workshopCase workshopSession).2.state
        ⟨"./a.out"⟩ = true := by
  exact ⟨proceeds_workshop true, by decide +kernel, by decide +kernel⟩

end World

end Provenance

end Conformance
