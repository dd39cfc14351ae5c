import Conformance.Invocation
import Conformance.Proofs.Judgement
import Conformance.Proofs.NormalForm
import Conformance.Proofs.Replacement

/-!
# Garbage that stays in its line

An output is decoded whatever its bytes are.  A line feed ends the line before it and leaves nothing
of it to the next one, also where a character was begun and not completed; so the lines of an output
are those of its two sides at any line feed.  What a compiler has announced is not changed by what
comes after it, and the value that a program prints last is not changed by what came before it.
-/

namespace Conformance

open Annotation Text

namespace Capture

variable {expected : String} {lines more : List String}

/-- The lines that are kept of an output. -/
def linesOf (output : Bytes) : List String :=
  outputLines (String.ofList (Utf8.decodeLossy output))

theorem lines_ofOutput (status : ExitStatus) (output : Bytes) :
    (ofOutput status output).lines = linesOf output := rfl

theorem linesOf_feed (output others : Bytes) :
    linesOf (output ++ lineFeed :: others) = linesOf output ++ linesOf others := by
  have hbyte : lineFeed.toNat < 0x80 := by decide
  have hchars : String.ofList (Utf8.decodeLossy (output ++ lineFeed :: others)) =
      String.ofList (Utf8.decodeLossy output) ++ "\n" ++
        String.ofList (Utf8.decodeLossy others) := by
    rw [Utf8.decodeLossy_append_cons output others hbyte, ← String.toList_inj]
    simp only [String.toList_ofList, String.toList_append, List.append_assoc]
    rfl
  rw [linesOf, hchars, outputLines_feed, linesOf, linesOf]

end Capture

/-- Only the last line of an output is compared. -/
theorem Verdict.ofValue_append {more : List String} (expected : String) (lines : List String)
    (hmore : more ≠ []) : ofValue expected (lines ++ more) = ofValue expected more := by
  rw [ofValue_eq, ofValue_eq, List.getLast?_append_of_ne_nil lines hmore]

theorem CompileOutcome.ofLines_ne_success_of_announces {line : String} {lines : List String}
    (hline : line ∈ lines) (hannounces : Signal.Announces line) :
    ofLines lines ≠ .ok .success := by
  intro hsuccess
  exact Signal.first?_eq_none_iff.mp (ofLines_eq_success_iff.mp hsuccess) line hline hannounces

namespace Capture

/-- Any output is read as characters and malformed parts, each of which is shown by one replacement
character; text is read as it is.  Of two outputs with a line feed between them the lines of the
first are kept and then those of the second, whatever bytes there are on either side.  So the second
alone settles a value, if it has lines, and the first alone settles what a compiler has announced in
it. -/
theorem lines_confined :
    (∀ output s, Utf8.Decodes output s ↔ Utf8.decodeLossy output = s) ∧
    (∀ text : String, Utf8.decodeLossy (Utf8.encode text.toList) = text.toList) ∧
    (∀ status output, (ofOutput status output).lines = linesOf output) ∧
    ∀ output others : Bytes,
      linesOf (output ++ lineFeed :: others) = linesOf output ++ linesOf others ∧
      (∀ expected, linesOf others ≠ [] →
        Verdict.ofValue expected (linesOf (output ++ lineFeed :: others)) =
          Verdict.ofValue expected (linesOf others)) ∧
      ((∃ line ∈ linesOf output, Signal.Announces line) →
        CompileOutcome.ofLines (linesOf (output ++ lineFeed :: others)) =
          CompileOutcome.ofLines (linesOf output)) := by
  refine ⟨fun output s => Utf8.decodes_iff, fun text => Utf8.decodeLossy_encode text.toList,
    lines_ofOutput, fun output others => ⟨linesOf_feed output others, ?_, ?_⟩⟩
  · intro expected hothers
    rw [linesOf_feed]
    exact Verdict.ofValue_append expected (linesOf output) hothers
  · rintro ⟨line, hline, hannounces⟩
    have hsettled := CompileOutcome.ofLines_ne_success_of_announces hline hannounces
    rw [linesOf_feed]
    exact CompileOutcome.ofLines_append_of_ne_success hsettled (linesOf others)

/-- The line feed stands where a character of three bytes still lacks its last one. -/
theorem lines_confined_cut :
    let output : Bytes := Utf8.encode "FAILED TYPE\n".toList ++ [0xE2, 0x82]
    let others : Bytes := Utf8.encode " 7 \n".toList
    linesOf (output ++ lineFeed :: others) = ["FAILED TYPE", "\uFFFD", "7"] ∧
      Verdict.ofValue "7" (linesOf (output ++ lineFeed :: others)) = .pass ∧
      CompileOutcome.ofLines (linesOf (output ++ lineFeed :: others)) = .ok (.failure "TYPE") := by
  intro output others
  have houtput : linesOf output = ["FAILED TYPE", "\uFFFD"] := by decide
  have hothers : linesOf others = ["7"] := by decide
  obtain ⟨-, -, -, hconfined⟩ := lines_confined
  obtain ⟨hlines, hvalue, hsignal⟩ := hconfined output others
  rw [houtput, hothers] at hlines
  rw [hothers] at hvalue
  rw [houtput] at hsignal
  refine ⟨hlines, ?_, ?_⟩
  · rw [hvalue "7" (by decide)]
    decide
  · rw [hsignal ⟨"FAILED TYPE", List.mem_cons_self, by decide⟩]
    decide

end Capture

end Conformance
