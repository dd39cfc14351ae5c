import Conformance.Proofs.WrittenRequest

/-!
# Changes of the settings

Settings are changed a step at a time, and a step that is refused changes nothing.  In each field
there is then what the last accepted step for it asks for, in its normal form, or what was there
before if no step was for it.  So steps for other fields may stand anywhere in between
(`agrees_afterAll_accepted`).

What the fields may hold is the same after every step (`IsNormal.after`), and so it is from the
standard settings on.
-/

namespace Conformance

namespace Setting

inductive Field where
  | testsDir
  | extension
  | compiler
  | build
  | executable
  | limit
  deriving DecidableEq

/-- The field that a step is for. -/
def field : Setting → Field
  | testsDir _ => .testsDir
  | extension _ => .extension
  | compiler _ => .compiler
  | build _ => .build
  | executable _ => .executable
  | limit _ => .limit

/-- A command may not be blank; nothing else is refused. -/
def IsAccepted : Setting → Prop
  | compiler line | build line => ¬ Text.IsGap line.toList
  | testsDir _ | extension _ | executable _ | limit _ => True

instance : DecidablePred IsAccepted := fun step => by
  cases step <;> unfold IsAccepted <;> infer_instance

/-- The accepted steps for a field, in their order. -/
def accepted (field : Field) (steps : List Setting) : List Setting :=
  steps.filter fun step => step.field = field ∧ step.IsAccepted

end Setting

namespace Settings

open Setting (Field accepted)

variable {s t : Settings} {step : Setting} {steps : List Setting} {field : Field}

/-- The settings after a step. -/
def after (s : Settings) (step : Setting) : Settings :=
  match s.set step with
  | .ok next => next
  | .error _ => s

def afterAll (s : Settings) (steps : List Setting) : Settings := steps.foldl after s

/-- The settings have the same in a field. -/
def Agrees (field : Field) (s t : Settings) : Prop :=
  match field with
  | .testsDir => s.testsDir = t.testsDir
  | .extension => s.extension = t.extension
  | .compiler => s.compiler = t.compiler
  | .build => s.build = t.build
  | .executable => s.executable = t.executable
  | .limit => s.limit = t.limit

/-- What a step asks for is there, in its normal form. -/
def Holds (s : Settings) : Setting → Prop
  | .testsDir path => s.testsDir = path
  | .extension text => IsDotted text s.extension
  | .compiler line => s.compiler.words = (Text.words line.toList).map String.ofList
  | .build line => s.build.words = (Text.words line.toList).map String.ofList
  | .executable path => s.executable = path
  | .limit seconds => s.limit = if seconds = 0 then none else some (Span.ofSeconds seconds)

theorem Agrees.refl (field : Field) (s : Settings) : s.Agrees field s := by
  cases field <;> rfl

theorem Agrees.trans {u : Settings} (hst : Agrees field s t) (htu : Agrees field t u) :
    Agrees field s u := by
  cases field <;> exact Eq.trans hst htu

theorem Agrees.symm (hst : Agrees field s t) : Agrees field t s := by
  cases field <;> exact Eq.symm hst

theorem eq_of_agrees (h : ∀ field, Agrees field s t) : s = t := by
  obtain ⟨testsDir, extension, compiler, build, executable, limit⟩ := s
  obtain rfl : testsDir = t.testsDir := h .testsDir
  obtain rfl : extension = t.extension := h .extension
  obtain rfl : compiler = t.compiler := h .compiler
  obtain rfl : build = t.build := h .build
  obtain rfl : executable = t.executable := h .executable
  obtain rfl : limit = t.limit := h .limit
  rfl

theorem Holds.of_agrees (hs : s.Holds step) (hagrees : Agrees step.field s t) : t.Holds step := by
  cases step <;> simp only [Agrees, Setting.field] at hagrees <;>
    simpa only [Holds, ← hagrees] using hs

/-! ## One step -/

theorem set_of_not_isAccepted (s : Settings) (h : ¬ step.IsAccepted) :
    s.set step = .error .empty := by
  cases step with
  | compiler line | build line =>
      have hgap : Text.IsGap line.toList := not_not.mp h
      simp [set, CommandLine.parse_eq_error_iff.mpr hgap, Except.map]
  | _ => exact absurd trivial h

theorem after_of_not_isAccepted (s : Settings) (h : ¬ step.IsAccepted) : s.after step = s := by
  rw [after, set_of_not_isAccepted s h]

/-- A command that is accepted is read as its words. -/
theorem exists_parse_of_not_isGap {line : String} (h : ¬ Text.IsGap line.toList) :
    ∃ c, CommandLine.parse line = .ok c ∧
      c.words = (Text.words line.toList).map String.ofList := by
  obtain ⟨hgap, -⟩ | ⟨c, -, hc⟩ := CommandLine.parse_cases line
  · exact absurd hgap h
  · exact ⟨c, hc, CommandLine.parse_eq_ok_iff.mp hc⟩

theorem after_compiler {line : String} {c : CommandLine} (hc : CommandLine.parse line = .ok c) :
    s.after (.compiler line) = s.withCompiler c := by
  simp [after, set, hc, Except.map]

theorem after_build {line : String} {c : CommandLine} (hc : CommandLine.parse line = .ok c) :
    s.after (.build line) = s.withBuild c := by
  simp [after, set, hc, Except.map]

theorem set_of_isAccepted (s : Settings) (h : step.IsAccepted) :
    s.set step = .ok (s.after step) := by
  cases step with
  | compiler line | build line =>
      obtain ⟨c, hc, -⟩ := exists_parse_of_not_isGap h
      simp [after, set, hc, Except.map]
  | _ => rfl

theorem holds_after (s : Settings) (h : step.IsAccepted) : (s.after step).Holds step := by
  cases step with
  | compiler line =>
      obtain ⟨c, hc, hwords⟩ := exists_parse_of_not_isGap h
      rw [after_compiler hc]
      exact hwords
  | build line =>
      obtain ⟨c, hc, hwords⟩ := exists_parse_of_not_isGap h
      rw [after_build hc]
      exact hwords
  | extension text => exact isDotted_normalExtension text
  | testsDir _ | executable _ | limit _ => rfl

/-- A step changes no field but its own. -/
theorem agrees_after (s : Settings) (h : field ≠ step.field) : Agrees field (s.after step) s := by
  by_cases haccepted : step.IsAccepted
  · cases step with
    | compiler line =>
        obtain ⟨c, hc, -⟩ := exists_parse_of_not_isGap haccepted
        rw [after_compiler hc]
        cases field <;> simp_all [Agrees, Setting.field, withCompiler]
    | build line =>
        obtain ⟨c, hc, -⟩ := exists_parse_of_not_isGap haccepted
        rw [after_build hc]
        cases field <;> simp_all [Agrees, Setting.field, withBuild]
    | testsDir _ | extension _ | executable _ | limit _ =>
        cases field <;> simp_all [Agrees, Setting.field, after, set, withTestsDir, withExtension,
          withExecutable, withLimit]
  · rw [after_of_not_isAccepted s haccepted]
    exact Agrees.refl field s

/-- What an accepted step puts into its field does not depend on what was there. -/
theorem agrees_after_after (s t : Settings) (h : step.IsAccepted) :
    Agrees step.field (s.after step) (t.after step) := by
  cases step with
  | compiler line =>
      obtain ⟨c, hc, -⟩ := exists_parse_of_not_isGap h
      rw [after_compiler hc, after_compiler hc]
      rfl
  | build line =>
      obtain ⟨c, hc, -⟩ := exists_parse_of_not_isGap h
      rw [after_build hc, after_build hc]
      rfl
  | testsDir _ | extension _ | executable _ | limit _ => rfl

/-! ## All steps -/

theorem afterAll_concat (s : Settings) (steps : List Setting) (step : Setting) :
    s.afterAll (steps ++ [step]) = (s.afterAll steps).after step := by
  simp [afterAll]

theorem accepted_concat (field : Field) (steps : List Setting) (step : Setting) :
    accepted field (steps ++ [step]) = accepted field steps ++
      if step.field = field ∧ step.IsAccepted then [step] else [] := by
  simp only [accepted, List.filter_append, List.filter_cons, List.filter_nil, decide_eq_true_eq]

/-- A field is what the accepted steps for it have made of it: all others may be left out. -/
theorem agrees_afterAll_accepted (field : Field) (s : Settings) (steps : List Setting) :
    Agrees field (s.afterAll steps) (s.afterAll (accepted field steps)) := by
  induction steps using List.reverseRecOn with
  | nil => exact Agrees.refl field s
  | append_singleton steps step ih =>
      rw [afterAll_concat, accepted_concat]
      by_cases haccepted : step.IsAccepted
      · by_cases hfield : step.field = field
        · subst hfield
          rw [if_pos ⟨rfl, haccepted⟩, afterAll_concat]
          exact agrees_after_after _ _ haccepted
        · rw [if_neg fun h => hfield h.1, List.append_nil]
          exact (agrees_after _ (Ne.symm hfield)).trans ih
      · rw [if_neg fun h => haccepted h.2, List.append_nil, after_of_not_isAccepted _ haccepted]
        exact ih

theorem holds_afterAll (s : Settings) (hlast : (accepted field steps).getLast? = some step) :
    (s.afterAll steps).Holds step := by
  obtain ⟨earlier, heq⟩ := List.getLast?_eq_some_iff.mp hlast
  have hmem : step ∈ accepted field steps := heq ▸ List.mem_concat_self
  obtain ⟨rfl, haccepted⟩ : step.field = field ∧ step.IsAccepted := by
    simpa using (List.mem_filter.mp hmem).2
  have hagrees := (agrees_afterAll_accepted step.field s steps).symm
  rw [heq, afterAll_concat] at hagrees
  exact (holds_after _ haccepted).of_agrees hagrees

theorem agrees_afterAll (s : Settings) (hnone : (accepted field steps).getLast? = none) :
    Agrees field (s.afterAll steps) s := by
  have hagrees := agrees_afterAll_accepted field s steps
  rwa [List.getLast?_eq_none_iff.mp hnone] at hagrees

/-! ## What the fields may hold -/

/-- The extension has no dot in front, a limit is a span of some length, and the commands are read
back from what is written for them. -/
structure IsNormal (s : Settings) : Prop where
  undotted : s.extension.toList.head? ≠ some '.'
  lasting : ∀ limit ∈ s.limit, 0 < limit.millis
  compiler : CommandLine.parse (toString s.compiler) = .ok s.compiler
  build : CommandLine.parse (toString s.build) = .ok s.build

theorem isNormal_standard : standard.IsNormal where
  undotted := by decide
  lasting := by decide
  compiler := by decide
  build := by decide

theorem IsNormal.after (hs : s.IsNormal) (step : Setting) : (s.after step).IsNormal := by
  by_cases haccepted : step.IsAccepted
  · cases step with
    | testsDir path => exact ⟨hs.undotted, hs.lasting, hs.compiler, hs.build⟩
    | extension text =>
        exact ⟨(isDotted_normalExtension text).undotted, hs.lasting, hs.compiler, hs.build⟩
    | compiler line =>
        obtain ⟨c, hc, -⟩ := exists_parse_of_not_isGap haccepted
        rw [after_compiler hc]
        exact ⟨hs.undotted, hs.lasting, (CommandLine.isWorded_of_parse hc).parse_toString, hs.build⟩
    | build line =>
        obtain ⟨c, hc, -⟩ := exists_parse_of_not_isGap haccepted
        rw [after_build hc]
        exact ⟨hs.undotted, hs.lasting, hs.compiler,
          (CommandLine.isWorded_of_parse hc).parse_toString⟩
    | executable path => exact ⟨hs.undotted, hs.lasting, hs.compiler, hs.build⟩
    | limit seconds =>
        refine ⟨hs.undotted, fun limit hlimit => ?_, hs.compiler, hs.build⟩
        have hsome : limitOfSeconds seconds = some limit := hlimit
        by_cases hzero : seconds = 0
        · simp [limitOfSeconds, hzero] at hsome
        · obtain rfl : Span.ofSeconds seconds = limit := by
            simpa [limitOfSeconds, hzero] using hsome
          exact Nat.mul_pos (by decide) (Nat.pos_of_ne_zero hzero)
  · rwa [after_of_not_isAccepted s haccepted]

theorem IsNormal.afterAll (hs : s.IsNormal) (steps : List Setting) :
    (s.afterAll steps).IsNormal := by
  induction steps generalizing s with
  | nil => exact hs
  | cons step steps ih => exact ih (hs.after step)

/-- After any steps from the standard settings on, each field has what the last accepted step for it
asks for, or the standard value; the same comes of any steps that are the same for each field on its
own; and extension, limit and commands are in their normal form.  A step is refused just if it is
for a command and blank, and then it leaves the settings as they are. -/
theorem afterAll_standard (steps : List Setting) :
    let s := standard.afterAll steps
    (∀ field, match (accepted field steps).getLast? with
      | some step => s.Holds step
      | none => s.Agrees field standard) ∧
    (∀ others, (∀ field, accepted field others = accepted field steps) →
      standard.afterAll others = s) ∧
    s.IsNormal ∧
    ∀ step, (¬ step.IsAccepted → s.set step = .error .empty ∧ s.after step = s) ∧
      (step.IsAccepted → s.set step = .ok (s.after step)) := by
  intro s
  refine ⟨fun field => ?_, fun others hothers => ?_, isNormal_standard.afterAll steps, fun step =>
    ⟨fun hrefused => ?_, set_of_isAccepted s⟩⟩
  · split
    · exact holds_afterAll standard ‹_›
    · exact agrees_afterAll standard ‹_›
  · refine eq_of_agrees fun field => ?_
    have hagrees := agrees_afterAll_accepted field standard others
    rw [hothers field] at hagrees
    exact hagrees.trans (agrees_afterAll_accepted field standard steps).symm
  · exact ⟨set_of_not_isAccepted s hrefused, after_of_not_isAccepted s hrefused⟩

/-- A blank command in between changes nothing, and the steps for the extension and for the limit may
change places. -/
theorem afterAll_standard_interleaved :
    let steps : List Setting := [.extension "c", .compiler " ", .limit 0, .extension "..sc2"]
    let others : List Setting := [.limit 0, .extension "c", .extension "..sc2"]
    (standard.afterAll steps).extension = "sc2" ∧ (standard.afterAll steps).limit = none ∧
      standard.afterAll others = standard.afterAll steps ∧
      (standard.afterAll steps).set (.compiler " ") = .error .empty := by
  intro steps others
  obtain ⟨-, hsame, -, hstep⟩ := afterAll_standard steps
  refine ⟨by decide, by decide, hsame others fun field => ?_, (hstep (.compiler " ")).1 ?_ |>.1⟩
  · cases field <;> decide
  · decide

end Settings

end Conformance
