import Conformance.Proofs.Words

/-!
# The normal form of captured output

The lines that are kept of an output are trimmed, are not empty and hold no line feed, and they lose
nothing but blanks.  Lines of this kind that are written one below the other are all kept as they
are, so keeping the lines of an output once more changes nothing.  The lines of two outputs with a
line feed between them are those of the one and then those of the other; blanks at either end and
carriage returns before the line feeds make no difference.
-/

namespace Conformance

namespace Text

variable {s t w line : List Char}

/-- Induction along the lines of a text: it is a single line, or its first line ends at a line feed
and the rest of the text follows. -/
@[elab_as_elim]
theorem line_induction {P : List Char → Prop} (last : ∀ line, '\n' ∉ line → P line)
    (feed : ∀ line rest, '\n' ∉ line → P rest → P (line ++ '\n' :: rest)) (s : List Char) :
    P s := by
  by_cases hfeed : '\n' ∈ s
  · obtain ⟨line, rest, hs, hline⟩ := List.eq_append_cons_of_mem hfeed
    exact hs ▸ feed line rest hline (line_induction last feed rest)
  · exact last s hfeed
termination_by s.length
decreasing_by
  rw [hs, List.length_append, List.length_cons]
  omega

/-! ## One line and several -/

theorem trimmedLines_line (hline : '\n' ∉ line) :
    trimmedLines line = if trim line = [] then [] else [trim line] := by
  have hsplit : splitLines line = [line] := splitWhen_beq_of_notMem hline
  rw [trimmedLines, hsplit, List.map_singleton]
  split <;> simp_all

theorem trimmedLines_feed (s t : List Char) :
    trimmedLines (s ++ '\n' :: t) = trimmedLines s ++ trimmedLines t := by
  rw [trimmedLines, splitLines, splitWhen_append_cons (by decide), List.map_append,
    List.filter_append]
  rfl

theorem flatten_trimmedLines_line (hline : '\n' ∉ line) :
    (trimmedLines line).flatten = trim line := by
  rw [trimmedLines_line hline]
  split <;> simp_all

theorem IsOutputLine.trimmedLines_eq (hline : IsOutputLine line) : trimmedLines line = [line] := by
  rw [trimmedLines_line hline.feed, hline.trimmed.trim_eq, if_neg hline.ne_nil]

/-- Lines written one below the other are kept as they are. -/
theorem trimmedLines_intercalate {lines : List (List Char)}
    (hlines : ∀ line ∈ lines, IsOutputLine line) :
    trimmedLines (['\n'].intercalate lines) = lines := by
  induction lines with
  | nil => rfl
  | cons line lines ih =>
      have hline := (hlines line List.mem_cons_self).trimmedLines_eq
      have hrest := ih fun other hother => hlines other (List.mem_cons_of_mem line hother)
      -- A line feed stands between two lines only, so whether there is a second one matters.
      cases lines with
      | nil => simpa using hline
      | cons next lines =>
          rw [List.intercalate_cons_cons, List.append_assoc, List.singleton_append,
            trimmedLines_feed, hline, hrest]
          rfl

/-- Only blanks are lost between an output and its lines. -/
theorem nonBlanks_flatten_trimmedLines (s : List Char) :
    nonBlanks (trimmedLines s).flatten = nonBlanks s := by
  induction s using line_induction with
  | last line hline => rw [flatten_trimmedLines_line hline, nonBlanks_trim]
  | feed line rest hline ih =>
      have hfeed : nonBlanks ('\n' :: rest) = nonBlanks rest := List.filter_cons_of_neg (by decide)
      rw [trimmedLines_feed, List.flatten_append, nonBlanks_append, ih,
        flatten_trimmedLines_line hline, nonBlanks_trim, nonBlanks_append, hfeed]

/-! ## Blanks that make no difference -/

theorem trimmedLines_of_isGap (hw : IsGap w) : trimmedLines w = [] := by
  rw [trimmedLines, List.filter_eq_nil_iff]
  intro line hline
  obtain ⟨part, hpart, rfl⟩ := List.mem_map.mp hline
  have hgap : IsGap part := fun c hc => hw c (of_mem_splitWhen hpart hc).2
  simp [trim_eq_nil_of_isGap hgap]

/-- Blanks before a line, on the line itself. -/
theorem trimmedLines_gapLine_append (hw : IsGap w) (hfeed : '\n' ∉ w) (s : List Char) :
    trimmedLines (w ++ s) = trimmedLines s := by
  have hfirst {line : List Char} (hline : '\n' ∉ line) :
      trimmedLines (w ++ line) = trimmedLines line := by
    rw [trimmedLines_line (by simp [hfeed, hline]), trim_gap_append hw, trimmedLines_line hline]
  induction s using line_induction with
  | last line hline => exact hfirst hline
  | feed line rest hline _ =>
      rw [← List.append_assoc, trimmedLines_feed, hfirst hline, trimmedLines_feed]

/-- Blanks behind the last line, on the line itself. -/
theorem trimmedLines_append_gapLine (hw : IsGap w) (hfeed : '\n' ∉ w) (s : List Char) :
    trimmedLines (s ++ w) = trimmedLines s := by
  induction s using line_induction with
  | last line hline =>
      rw [trimmedLines_line (by simp [hfeed, hline]), trim_append_gap hw, trimmedLines_line hline]
  | feed line rest _ ih =>
      rw [List.append_assoc, List.cons_append, trimmedLines_feed, ih, trimmedLines_feed]

theorem trimmedLines_gap_append (hw : IsGap w) (s : List Char) :
    trimmedLines (w ++ s) = trimmedLines s := by
  induction w using line_induction with
  | last line hline => exact trimmedLines_gapLine_append hw hline s
  | feed line rest hline ih =>
      obtain ⟨hfirst, hrest⟩ := List.forall_mem_append.mp hw
      rw [List.append_assoc, List.cons_append, trimmedLines_feed, trimmedLines_of_isGap hfirst,
        List.nil_append, ih (List.forall_mem_cons.mp hrest).2]

theorem trimmedLines_append_gap (hw : IsGap w) (s : List Char) :
    trimmedLines (s ++ w) = trimmedLines s := by
  induction w using line_induction with
  | last line hline => exact trimmedLines_append_gapLine hw hline s
  | feed line rest hline _ =>
      -- What stands behind the line feed gives no lines, and what stands before it ends the last one.
      obtain ⟨hfirst, hrest⟩ := List.forall_mem_append.mp hw
      have hgap : IsGap rest := (List.forall_mem_cons.mp hrest).2
      rw [← List.append_assoc, trimmedLines_feed, trimmedLines_of_isGap hgap, List.append_nil,
        trimmedLines_append_gapLine hfirst hline]

/-- A carriage return before each line feed. -/
def withReturns (s : List Char) : List Char :=
  s.flatMap fun c => if c = '\n' then ['\r', '\n'] else [c]

theorem withReturns_line (hline : '\n' ∉ line) : withReturns line = line := by
  induction line with
  | nil => rfl
  | cons c line ih =>
      obtain ⟨hc, hrest⟩ : '\n' ≠ c ∧ '\n' ∉ line := by simpa using hline
      rw [withReturns, List.flatMap_cons, if_neg hc.symm]
      exact congrArg (c :: ·) (ih hrest)

theorem withReturns_feed (s t : List Char) :
    withReturns (s ++ '\n' :: t) = (withReturns s ++ ['\r']) ++ '\n' :: withReturns t := by
  simp [withReturns]

theorem trimmedLines_withReturns (s : List Char) :
    trimmedLines (withReturns s) = trimmedLines s := by
  have hreturn : IsGap ['\r'] := by decide
  induction s using line_induction with
  | last line hline => rw [withReturns_line hline]
  | feed line rest hline ih =>
      rw [withReturns_feed, trimmedLines_feed, trimmedLines_append_gap hreturn,
        withReturns_line hline, ih, trimmedLines_feed]

/-! ## Captured output -/

theorem toList_outputLines (raw : String) :
    (outputLines raw).map String.toList = trimmedLines raw.toList := by
  simp [outputLines, List.map_map, Function.comp_def]

theorem outputLines_feed (raw more : String) :
    outputLines (raw ++ "\n" ++ more) = outputLines raw ++ outputLines more := by
  have hchars : (raw ++ "\n" ++ more).toList = raw.toList ++ '\n' :: more.toList := by
    rw [String.toList_append, String.toList_append, List.append_assoc]
    rfl
  rw [outputLines, hchars, trimmedLines_feed, List.map_append, outputLines, outputLines]

theorem outputLines_intercalate {lines : List String}
    (hlines : ∀ line ∈ lines, IsOutputLine line.toList) :
    outputLines ("\n".intercalate lines) = lines := by
  have hchars : ∀ line ∈ lines.map String.toList, IsOutputLine line :=
    List.forall_mem_map.mpr hlines
  rw [outputLines, String.toList_intercalate, show "\n".toList = ['\n'] from rfl,
    trimmedLines_intercalate hchars]
  simp [List.map_map, Function.comp_def]

/-- The lines that are kept of an output are trimmed and not empty, hold no line feed, and hold all
of it that is not blank.  Any such lines are what is kept of them when they are joined, an output
that is cut at a line feed is kept in two parts, and neither blanks around the whole nor carriage
returns before its line feeds change what is kept. -/
theorem outputLines_normal (raw : String) :
    (∀ line ∈ outputLines raw, IsOutputLine line.toList) ∧
    nonBlanks (String.join (outputLines raw)).toList = nonBlanks raw.toList ∧
    (∀ lines : List String, (∀ line ∈ lines, IsOutputLine line.toList) →
      outputLines ("\n".intercalate lines) = lines) ∧
    outputLines ("\n".intercalate (outputLines raw)) = outputLines raw ∧
    (∀ more : String, outputLines (raw ++ "\n" ++ more) = outputLines raw ++ outputLines more) ∧
    (∀ w : String, IsGap w.toList →
      outputLines (w ++ raw) = outputLines raw ∧ outputLines (raw ++ w) = outputLines raw) ∧
    outputLines (String.ofList (withReturns raw.toList)) = outputLines raw := by
  have hkept : ∀ line ∈ outputLines raw, IsOutputLine line.toList :=
    fun line hline => of_mem_outputLines hline
  refine ⟨hkept, ?_, fun lines => outputLines_intercalate, outputLines_intercalate hkept,
    outputLines_feed raw, fun w hw => ⟨?_, ?_⟩, ?_⟩
  · rw [String.toList_join, List.flatMap_def, toList_outputLines, nonBlanks_flatten_trimmedLines]
  · rw [outputLines, String.toList_append, trimmedLines_gap_append hw, outputLines]
  · rw [outputLines, String.toList_append, trimmedLines_append_gap hw, outputLines]
  · rw [outputLines, String.toList_ofList, trimmedLines_withReturns, outputLines]

/-- A carriage return inside a line stays there, at the end of one it goes. -/
theorem outputLines_normal_returns :
    let raw := " 4\r2 \r\n\u2003\n\tdone"
    outputLines raw = ["4\r2", "done"] ∧ outputLines "4\r2\ndone" = ["4\r2", "done"] ∧
      outputLines ("\u00a0\n" ++ raw) = ["4\r2", "done"] := by
  intro raw
  have hraw : outputLines raw = ["4\r2", "done"] := by decide
  obtain ⟨-, -, -, hagain, -, hgap, -⟩ := outputLines_normal raw
  rw [hraw] at hagain hgap
  exact ⟨hraw, hagain, (hgap _ (by decide)).1⟩

end Text

end Conformance
