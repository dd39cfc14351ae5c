import Conformance.Signal

/-!
# The deciding line

The outcome of a compilation is read off one line: the first whose first word is the failure word.
The equation `CompileOutcome.ofLines_eq` says so, and every other fact about outcomes follows from it.
-/

namespace Conformance

namespace Signal

/-- The line opens with the failure word. -/
def Announces (line : String) : Prop :=
  (Text.words line.toList).head? = some failureWord

instance : DecidablePred Announces := fun _ => inferInstanceAs (Decidable (_ = _))

/-- The first line that announces a failure. -/
def first? (lines : List String) : Option String :=
  lines.find? fun line => decide (Announces line)

/-- The second word of a line. -/
def code? (line : String) : Option String :=
  (Text.words line.toList)[1]?.map String.ofList

theorem afterFailure_eq_none_iff {line : String} :
    afterFailure line = none ↔ ¬ Announces line := by
  unfold afterFailure Announces
  cases Text.words line.toList with
  | nil => simp
  | cons first rest => by_cases h : first = failureWord <;> simp [h]

/-- The words after the failure word are those of the line without its first. -/
theorem afterFailure_eq_some_iff {line : String} {rest : List (List Char)} :
    afterFailure line = some rest ↔ Text.words line.toList = failureWord :: rest := by
  unfold afterFailure
  cases Text.words line.toList with
  | nil => simp
  | cons first others => by_cases h : first = failureWord <;> simp [h]

theorem first?_eq_none_iff {lines : List String} :
    first? lines = none ↔ ∀ line ∈ lines, ¬ Announces line := by
  simp [first?, List.find?_eq_none]

theorem first?_cons_of_announces {line : String} (rest : List String) (h : Announces line) :
    first? (line :: rest) = some line := by
  simp [first?, h]

theorem first?_cons_of_not_announces {line : String} (rest : List String)
    (h : ¬ Announces line) : first? (line :: rest) = first? rest := by
  simp [first?, h]

theorem first?_append (lines more : List String) :
    first? (lines ++ more) = (first? lines).or (first? more) :=
  List.find?_append

end Signal

namespace CompileOutcome

open Signal

/-- The outcome that a deciding line stands for, if there is such a line. -/
def ofFirst : Option String → Except MalformedSignal CompileOutcome
  | none => .ok .success
  | some line =>
      match code? line with
      | none => .error ⟨line⟩
      | some code => .ok (.failure code)

theorem ofLines_eq (lines : List String) : ofLines lines = ofFirst (first? lines) := by
  induction lines with
  | nil => rfl
  | cons line rest ih =>
      by_cases hline : Announces line
      · obtain ⟨words, hwords⟩ : ∃ words, afterFailure line = some words :=
          Option.ne_none_iff_exists'.mp fun hnone => afterFailure_eq_none_iff.mp hnone hline
        have hall := afterFailure_eq_some_iff.mp hwords
        rw [first?_cons_of_announces rest hline]
        cases words with
        | nil => simp [ofLines, ofFirst, code?, hwords, hall]
        | cons code others => simp [ofLines, ofFirst, code?, hwords, hall]
      · rw [first?_cons_of_not_announces rest hline, ← ih, ofLines,
          afterFailure_eq_none_iff.mpr hline]

theorem ofLines_eq_success_iff {lines : List String} :
    ofLines lines = .ok .success ↔ first? lines = none := by
  rw [ofLines_eq]
  cases hfirst : first? lines with
  | none => simp [ofFirst]
  | some line => cases hcode : code? line <;> simp [ofFirst, hcode]

/-- Lines that announce no failure leave the outcome to those behind them. -/
theorem ofLines_append_of_success {lines : List String} (hlines : ofLines lines = .ok .success)
    (more : List String) : ofLines (lines ++ more) = ofLines more := by
  have hfirst : first? lines = none := ofLines_eq_success_iff.mp hlines
  rw [ofLines_eq, first?_append, hfirst, Option.none_or, ofLines_eq]

/-- Lines that announce a failure settle the outcome. -/
theorem ofLines_append_of_ne_success {lines : List String} (hlines : ofLines lines ≠ .ok .success)
    (more : List String) : ofLines (lines ++ more) = ofLines lines := by
  have hfirst : first? lines ≠ none := fun hnone => hlines (ofLines_eq_success_iff.mpr hnone)
  obtain ⟨line, hline⟩ := Option.ne_none_iff_exists'.mp hfirst
  rw [ofLines_eq, first?_append, hline, Option.some_or, ofLines_eq, hline]

theorem ofLines_eq_failure_iff {lines : List String} {code : String} :
    ofLines lines = .ok (.failure code) ↔
      ∃ line, first? lines = some line ∧ code? line = some code := by
  rw [ofLines_eq]
  cases hfirst : first? lines with
  | none => simp [ofFirst]
  | some line => cases hcode : code? line <;> simp [ofFirst, hcode]

theorem ofLines_eq_malformed_iff {lines : List String} {line : String} :
    ofLines lines = .error ⟨line⟩ ↔ first? lines = some line ∧ code? line = none := by
  rw [ofLines_eq]
  cases hfirst : first? lines with
  | none => simp [ofFirst]
  | some first =>
      cases hcode : code? first with
      | none =>
          simp only [ofFirst, hcode, Except.error.injEq, MalformedSignal.mk.injEq, Option.some.injEq]
          exact ⟨fun h => ⟨h, h ▸ hcode⟩, And.left⟩
      | some code =>
          simp only [ofFirst, hcode, Option.some.injEq, reduceCtorEq, false_iff, not_and]
          rintro rfl
          simp [hcode]

end CompileOutcome

end Conformance
