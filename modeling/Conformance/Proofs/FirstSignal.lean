import Conformance.Proofs.Signal
import Conformance.Proofs.Words

/-!
# The first signal decides

What a compiler has printed says that it failed if some line leads with the failure word, and the
first such line decides, whatever stands behind it.  The code is the word that this line goes on with;
a line that has none is a malformed signal, and among lines as they are kept of an output this is the
failure word alone.
-/

namespace Conformance

open Text

namespace Signal

variable {line code : String} {lines : List String}

theorem announces_iff : Announces line ↔ ∃ rest, LeadsWith failureWord rest line.toList := by
  rw [Announces]
  constructor
  · intro hhead
    obtain ⟨others, hwords⟩ := List.head?_eq_some_iff.mp hhead
    obtain ⟨rest, hleads, -⟩ := words_eq_cons_iff.mp hwords
    exact ⟨rest, hleads⟩
  · rintro ⟨rest, hleads⟩
    rw [hleads.words_eq]
    rfl

/-- The first line that announces a failure. -/
def Decides (lines : List String) (line : String) : Prop :=
  ∃ before after, lines = before ++ line :: after ∧ Announces line ∧
    ∀ other ∈ before, ¬ Announces other

theorem first?_eq_some_iff : first? lines = some line ↔ Decides lines line := by
  rw [first?, List.find?_eq_some_iff_append]
  constructor
  · rintro ⟨hline, before, after, hlines, hbefore⟩
    refine ⟨before, after, hlines, of_decide_eq_true hline, fun other hother => ?_⟩
    simpa using hbefore other hother
  · rintro ⟨before, after, hlines, hline, hbefore⟩
    refine ⟨decide_eq_true hline, before, after, hlines, fun other hother => ?_⟩
    simpa using hbefore other hother

theorem code?_eq_some_iff {rest : List Char} (hleads : LeadsWith failureWord rest line.toList) :
    code? line = some code ↔ ∃ after, LeadsWith code.toList after rest := by
  rw [code?, hleads.words_eq, List.getElem?_cons_succ, Option.map_eq_some_iff]
  constructor
  · rintro ⟨word, hword, rfl⟩
    obtain ⟨others, hwords⟩ := List.head?_eq_some_iff.mp (List.head?_eq_getElem?.trans hword)
    obtain ⟨after, hafter, -⟩ := words_eq_cons_iff.mp hwords
    exact ⟨after, by rwa [String.toList_ofList]⟩
  · rintro ⟨after, hafter⟩
    refine ⟨code.toList, ?_, String.ofList_toList⟩
    rw [hafter.words_eq]
    rfl

theorem code?_eq_none_iff {rest : List Char} (hleads : LeadsWith failureWord rest line.toList) :
    code? line = none ↔ IsGap rest := by
  rw [code?, hleads.words_eq, List.getElem?_cons_succ, Option.map_eq_none_iff,
    ← List.head?_eq_getElem?, List.head?_eq_none_iff, words_eq_nil_iff]

/-- A trimmed line that names no code is the failure word alone. -/
theorem eq_failureWord_of_code?_eq_none (htrimmed : IsTrimmed line.toList)
    (hline : Announces line) (hcode : code? line = none) : line = "FAILED" := by
  obtain ⟨rest, hleads⟩ := announces_iff.mp hline
  have hrest : words rest = [] := words_eq_nil_iff.mpr ((code?_eq_none_iff hleads).mp hcode)
  have hwords : words line.toList = [failureWord] := by rw [hleads.words_eq, hrest]
  obtain ⟨-, hchars⟩ := htrimmed.words_eq_singleton_iff.mp hwords
  exact String.toList_inj.mp hchars

end Signal

namespace CompileOutcome

open Signal

variable {line : String} {lines : List String}

theorem ofLines_eq_malformed_iff_decides :
    ofLines lines = .error ⟨line⟩ ↔
      ∃ rest, Decides lines line ∧ LeadsWith failureWord rest line.toList ∧ IsGap rest := by
  rw [ofLines_eq_malformed_iff, first?_eq_some_iff]
  constructor
  · rintro ⟨hdecides, hcode⟩
    obtain ⟨-, -, -, hline, -⟩ := id hdecides
    obtain ⟨rest, hleads⟩ := announces_iff.mp hline
    exact ⟨rest, hdecides, hleads, (code?_eq_none_iff hleads).mp hcode⟩
  · rintro ⟨rest, hdecides, hleads, hrest⟩
    exact ⟨hdecides, (code?_eq_none_iff hleads).mpr hrest⟩

theorem ofLines_eq_failure_iff_decides {code : String} :
    ofLines lines = .ok (.failure code) ↔
      ∃ line rest after, Decides lines line ∧ LeadsWith failureWord rest line.toList ∧
        LeadsWith code.toList after rest := by
  rw [ofLines_eq_failure_iff]
  constructor
  · rintro ⟨line, hfirst, hcode⟩
    have hdecides := first?_eq_some_iff.mp hfirst
    obtain ⟨-, -, -, hline, -⟩ := id hdecides
    obtain ⟨rest, hleads⟩ := announces_iff.mp hline
    obtain ⟨after, hafter⟩ := (code?_eq_some_iff hleads).mp hcode
    exact ⟨line, rest, after, hdecides, hleads, hafter⟩
  · rintro ⟨line, rest, after, hdecides, hleads, hafter⟩
    exact ⟨line, first?_eq_some_iff.mpr hdecides, (code?_eq_some_iff hleads).mpr ⟨after, hafter⟩⟩

theorem isWord_of_ofLines {code : String} (hlines : ofLines lines = .ok (.failure code)) :
    IsWord code.toList := by
  obtain ⟨line, rest, after, -, -, hafter⟩ := ofLines_eq_failure_iff_decides.mp hlines
  exact hafter.isWord

/-- Lines of captured output are trimmed, so a malformed signal among them has but one form. -/
theorem ofLines_outputLines_eq_malformed_iff {raw : String} :
    ofLines (outputLines raw) = .error ⟨line⟩ ↔
      Decides (outputLines raw) "FAILED" ∧ line = "FAILED" := by
  rw [ofLines_eq_malformed_iff, first?_eq_some_iff]
  constructor
  · rintro ⟨hdecides, hcode⟩
    obtain ⟨before, after, hlines, hline, -⟩ := id hdecides
    have hmem : line ∈ outputLines raw := by
      rw [hlines]
      exact List.mem_append_right before List.mem_cons_self
    have hword : line = "FAILED" :=
      eq_failureWord_of_code?_eq_none (of_mem_outputLines hmem).trimmed hline hcode
    exact ⟨hword ▸ hdecides, hword⟩
  · rintro ⟨hdecides, rfl⟩
    exact ⟨hdecides, by decide⟩

/-- Lines that end in success leave the outcome to those behind them, and any other outcome stays
whatever follows.  It is success if no line leads with the failure word.  Otherwise the first such
line decides: the word that it goes on with is the code, and with nothing but blanks behind the
failure word the signal is malformed.  Among the lines of an output that is the failure word alone. -/
theorem ofLines_first_signal :
    (∀ lines more, ofLines lines = .ok .success → ofLines (lines ++ more) = ofLines more) ∧
    (∀ lines more, ofLines lines ≠ .ok .success → ofLines (lines ++ more) = ofLines lines) ∧
    (∀ line, Announces line ↔ ∃ rest, LeadsWith failureWord rest line.toList) ∧
    (∀ lines, ofLines lines = .ok .success ↔ ∀ line ∈ lines, ¬ Announces line) ∧
    (∀ lines code, ofLines lines = .ok (.failure code) ↔
      ∃ line rest after, Decides lines line ∧ LeadsWith failureWord rest line.toList ∧
        LeadsWith code.toList after rest) ∧
    (∀ lines code, ofLines lines = .ok (.failure code) → IsWord code.toList) ∧
    (∀ lines line, ofLines lines = .error ⟨line⟩ ↔
      ∃ rest, Decides lines line ∧ LeadsWith failureWord rest line.toList ∧ IsGap rest) ∧
    ∀ raw line, ofLines (outputLines raw) = .error ⟨line⟩ ↔
      Decides (outputLines raw) "FAILED" ∧ line = "FAILED" := by
  refine ⟨fun lines more hlines => ofLines_append_of_success hlines more,
    fun lines more hlines => ofLines_append_of_ne_success hlines more,
    fun line => announces_iff, fun lines => ?_, fun lines code => ofLines_eq_failure_iff_decides,
    fun lines code => isWord_of_ofLines, fun lines line => ofLines_eq_malformed_iff_decides,
    fun raw line => ofLines_outputLines_eq_malformed_iff⟩
  rw [ofLines_eq_success_iff, first?_eq_none_iff]

/-- Neither a longer word nor the failure word inside a line is a signal, and neither a later code nor
a later line without a code takes the place of the first one. -/
theorem ofLines_first_signal_wide :
    let quiet := ["FAILEDX main", "note: FAILED here"]
    let loud := ["\u00a0FAILED\t\u2003TYPE in main", "FAILED", "FAILED OTHER"]
    ofLines (quiet ++ loud) = .ok (.failure "TYPE") ∧
      ofLines (loud ++ quiet) = .ok (.failure "TYPE") ∧ IsWord "TYPE".toList := by
  intro quiet loud
  have hquiet : ofLines quiet = .ok .success := by decide
  have hloud : ofLines loud = .ok (.failure "TYPE") := by decide
  obtain ⟨hleave, hstay, -, -, -, hcode, -⟩ := ofLines_first_signal
  refine ⟨(hleave quiet loud hquiet).trans hloud, ?_, hcode loud "TYPE" hloud⟩
  have hsettled : ofLines loud ≠ .ok .success := by
    rw [hloud]
    simp
  exact (hstay loud quiet hsettled).trans hloud

end CompileOutcome

end Conformance
