import Conformance.Proofs.Line
import Conformance.Report.Rendering

/-!
# Colours in the report

The coloured text is the plain text with escape sequences around its first two lines.  Taking all
escape sequences out of as many lines gives the plain text back, whatever the messages behind them
hold: those stay as they are.
-/

namespace Conformance

namespace Report

open Text

/-- The text without the escape sequences in its first lines.  A sequence goes from the escape
character to the letter `m`. -/
def unpaint : Nat → (isInside : Bool) → List Char → List Char
  | 0, _, text => text
  | _, _, [] => []
  | n + 1, isInside, c :: rest =>
      if c = '\n' then c :: unpaint n false rest
      else if isInside then unpaint (n + 1) (c != 'm') rest
      else if c = '\x1b' then unpaint (n + 1) true rest
      else c :: unpaint (n + 1) false rest

variable {line : List Char} {n : Nat}

theorem unpaint_escape (color : Color) (n : Nat) (rest : List Char) :
    unpaint (n + 1) false (color.escape.toList ++ rest) = unpaint (n + 1) false rest := by
  cases color with
  | green =>
      have htext : Color.green.escape.toList = ['\x1b', '[', '1', ';', '3', '2', 'm'] := rfl
      rw [htext]
      simp [unpaint]
  | red =>
      have htext : Color.red.escape.toList = ['\x1b', '[', '1', ';', '3', '1', 'm'] := rfl
      rw [htext]
      simp [unpaint]

theorem unpaint_resetEscape (n : Nat) (rest : List Char) :
    unpaint (n + 1) false (resetEscape.toList ++ rest) = unpaint (n + 1) false rest := by
  have htext : resetEscape.toList = ['\x1b', '[', '0', 'm'] := rfl
  rw [htext]
  simp [unpaint]

theorem unpaint_append (hfeed : '\n' ∉ line) (hescape : '\x1b' ∉ line) (rest : List Char) :
    unpaint (n + 1) false (line ++ rest) = line ++ unpaint (n + 1) false rest := by
  induction line with
  | nil => rfl
  | cons c line ih =>
      obtain ⟨hc, hfeed⟩ := not_or.mp (List.mem_cons.not.mp hfeed)
      obtain ⟨hc', hescape⟩ := not_or.mp (List.mem_cons.not.mp hescape)
      simp [unpaint, Ne.symm hc, Ne.symm hc', ih hfeed hescape]

/-- The text holds no line end and begins no escape sequence. -/
structure IsUnpainted (line : String) : Prop where
  isLine : IsLine line
  escape : '\x1b' ∉ line.toList

/-- A painted line is as it was before. -/
theorem unpaint_paint (color : Color) {line : String} (hline : IsUnpainted line) (rest : List Char) :
    unpaint (n + 1) false ((paint color line).toList ++ '\n' :: rest) =
      line.toList ++ '\n' :: unpaint n false rest := by
  have htext : (paint color line).toList =
      color.escape.toList ++ (line.toList ++ resetEscape.toList) := by
    simp [paint, List.append_assoc]
  rw [htext, List.append_assoc, unpaint_escape, List.append_assoc,
    unpaint_append hline.isLine hline.escape, unpaint_resetEscape]
  simp [unpaint]

theorem notMem_toString {c : Char} (hc : c.isDigit = false) (n : Nat) : c ∉ (toString n).toList := by
  intro hmem
  have hmem : c ∈ Nat.toDigits 10 n := by simpa using hmem
  have hdigit : c.isDigit = true := Nat.isDigit_of_mem_toDigits (by decide) (by decide) hmem
  rw [hc] at hdigit
  cases hdigit

theorem isUnpainted_count (n : Nat) {word : String} (hword : IsUnpainted word) :
    IsUnpainted (toString n ++ word) := by
  constructor
  · rw [IsLine, String.toList_append, List.mem_append]
    exact not_or.mpr ⟨notMem_toString (by decide) n, hword.isLine⟩
  · rw [String.toList_append, List.mem_append]
    exact not_or.mpr ⟨notMem_toString (by decide) n, hword.escape⟩

theorem isUnpainted_passedLine (r : Report) : IsUnpainted r.passedLine :=
  isUnpainted_count r.passed ⟨by unfold IsLine; decide, by decide⟩

theorem isUnpainted_failedLine (r : Report) : IsUnpainted r.failedLine :=
  isUnpainted_count r.failed ⟨by unfold IsLine; decide, by decide⟩

theorem toString_eq (r : Report) :
    toString r = r.passedLine ++ "\n" ++ r.failedLine ++ "\n" ++ unlines r.failures := by
  change r.passedLine ++ "\n" ++ (r.failedLine ++ "\n" ++ unlines r.failures) = _
  simp only [String.append_assoc]

theorem toColoredText_eq (r : Report) :
    r.toColoredText = paint .green r.passedLine ++ "\n" ++
      paint (if r.isSuccess then .green else .red) r.failedLine ++ "\n" ++ unlines r.failures := by
  change paint .green r.passedLine ++ "\n" ++
    (paint r.failedColor r.failedLine ++ "\n" ++ unlines r.failures) = _
  simp only [failedColor, String.append_assoc]

theorem escape_ite (isGreen : Bool) :
    (if isGreen then Color.green else Color.red).escape =
      if isGreen then "\x1b[1;32m" else "\x1b[1;31m" := by
  cases isGreen <;> rfl

theorem unpaint_toColoredText (r : Report) :
    unpaint 2 false r.toColoredText.toList = (toString r).toList := by
  have hcolored : r.toColoredText.toList =
      (paint .green r.passedLine).toList ++ '\n' ::
        ((paint (if r.isSuccess then .green else .red) r.failedLine).toList ++ '\n' ::
          (unlines r.failures).toList) := by
    simp [toColoredText_eq]
  rw [hcolored, unpaint_paint _ (isUnpainted_passedLine r), unpaint_paint _ (isUnpainted_failedLine r),
    unpaint, toString_eq]
  simp

/-- The coloured text is the plain one with its first line bold and green, and its second line bold and
green, or red if a test has failed; from there on they are the same.  Without the escape sequences in two
lines it is the plain text, which is what is printed without colours.  It is coloured if that is asked
for, or by itself on a terminal where it is not forbidden. -/
theorem render_text (r : Report) :
    (∃ first second rest, IsLine first ∧ IsLine second ∧
      toString r = first ++ "\n" ++ second ++ "\n" ++ rest ∧
      r.render .text true = "\x1b[1;32m" ++ first ++ "\x1b[0m" ++ "\n" ++
        ((if r.isSuccess then "\x1b[1;32m" else "\x1b[1;31m") ++ second ++ "\x1b[0m") ++ "\n" ++
          rest) ∧
    unpaint 2 false (r.render .text true).toList = (toString r).toList ∧
    r.render .text false = toString r ∧
    ∀ (mode : ColorMode) (isTerminal isForbidden : Bool),
      r.render .text (mode.isEnabled isTerminal isForbidden) =
        if mode = .always ∨ mode = .auto ∧ isTerminal = true ∧ isForbidden = false then
          r.render .text true
        else toString r := by
  refine ⟨⟨r.passedLine, r.failedLine, unlines r.failures, (isUnpainted_passedLine r).isLine,
    (isUnpainted_failedLine r).isLine, toString_eq r, ?_⟩, unpaint_toColoredText r, rfl, ?_⟩
  · change r.toColoredText = _
    rw [toColoredText_eq, paint, paint, escape_ite]
    rfl
  · intro mode isTerminal isForbidden
    cases mode <;> cases isTerminal <;> cases isForbidden <;> rfl

end Report

end Conformance
