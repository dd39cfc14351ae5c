import Conformance.Annotation
import Conformance.Proofs.Judgement
import Conformance.Proofs.Utf8
import Conformance.Proofs.Words

/-!
# What headers can state

A header states trimmed texts without terminators, and of these it takes the ones that open with the
error word and another word for codes.  The line for what is shown of such an expectation, between a
marker and a terminator, states that expectation.
-/

namespace Conformance

namespace Header

open Text

variable {text line w lead : List Char}

/-- The text opens with the error word, and another word follows. -/
def StatesCode (text : List Char) : Prop :=
  ∃ code rest, words text = errorWord :: code :: rest

theorem statesCode_iff :
    StatesCode text ↔ (words text)[0]? = some errorWord ∧ (words text)[1]?.isSome := by
  unfold StatesCode
  rcases words text with _ | ⟨keyword, _ | ⟨code, rest⟩⟩ <;> simp

instance : DecidablePred StatesCode := fun _ => decidable_of_iff _ statesCode_iff.symm

/-- The header line for a text. -/
def lineOf (text : String) : String := "// " ++ text ++ ";"

theorem isTrimmed_clean (line : List Char) : IsTrimmed (clean line) :=
  isTrimmed_trim _

theorem terminator_notMem_clean (line : List Char) : terminator ∉ clean line := by
  intro hmem
  simpa using List.of_mem_filter (mem_of_mem_trim hmem)

/-- A text without its terminators and without the blanks around what is left. -/
def bare (s : List Char) : List Char := trim (s.filter (· != terminator))

theorem isGap_filter (hw : IsGap w) (p : Char → Bool) : IsGap (w.filter p) :=
  fun c hc => hw c (List.mem_of_mem_filter hc)

theorem bare_gap_append (hw : IsGap w) (s : List Char) : bare (w ++ s) = bare s := by
  rw [bare, List.filter_append, trim_gap_append (isGap_filter hw _), bare]

theorem trimStart_lead (hlead : IsGap lead) (body : List Char) :
    trimStart (lead ++ '/' :: '/' :: body) = '/' :: '/' :: body := by
  rw [trimStart_gap_append hlead]
  exact trimStart_eq_self_iff.mpr (by simp; decide)

theorem clean_marker (hlead : IsGap lead) (body : List Char) :
    clean (lead ++ '/' :: '/' :: body) = bare body := by
  rw [clean, trimStart_lead hlead, dropMarker, bare]

theorem clean_lineOf {text : String} (htrimmed : IsTrimmed text.toList)
    (hterminator : terminator ∉ text.toList) : clean (lineOf text).toList = text.toList := by
  have hkept : text.toList.filter (· != terminator) = text.toList := by
    rw [List.filter_eq_self]
    intro c hc
    simpa using fun heq : c = terminator => hterminator (heq ▸ hc)
  have hline : (lineOf text).toList =
      [] ++ '/' :: '/' :: ([' '] ++ (text.toList ++ [terminator])) := by
    simp [lineOf, terminator]
  rw [hline, clean_marker (List.forall_mem_nil _), bare_gap_append (by decide), bare,
    List.filter_append, hkept]
  simpa using htrimmed.trim_eq

theorem read_eq_value_iff {value : String} :
    read text = .ok (.value value) ↔
      words text ≠ [] ∧ ¬ StatesCode text ∧ value = String.ofList text := by
  unfold read StatesCode
  rcases hwords : words text with _ | ⟨keyword, _ | ⟨code, rest⟩⟩
  · simp
  · simp [eq_comm]
  · by_cases hkeyword : keyword = errorWord <;> simp [hkeyword, eq_comm]

theorem read_eq_error_iff {code : String} :
    read text = .ok (.error code) ↔ ∃ rest, words text = errorWord :: code.toList :: rest := by
  unfold read
  rcases hwords : words text with _ | ⟨keyword, _ | ⟨word, rest⟩⟩
  · simp
  · simp
  · by_cases hkeyword : keyword = errorWord
    · have hword : String.ofList word = code ↔ word = code.toList := by
        rw [← String.toList_inj, String.toList_ofList]
      simp [hkeyword, hword]
    · simp [hkeyword]

end Header

namespace Expectation

open Header Text

/-- The expectations that headers state: words as codes and trimmed texts as values, neither with a
terminator, and no text that opens as the expectation of a code does. -/
def IsStatable : Expectation → Prop
  | error code => IsWord code.toList ∧ terminator ∉ code.toList
  | value text =>
      text.toList ≠ [] ∧ IsTrimmed text.toList ∧ terminator ∉ text.toList ∧
        ¬ StatesCode text.toList

theorem isStatable_of_ofHeader {line : String} {e : Expectation}
    (hline : ofHeader line = .ok e) : e.IsStatable := by
  have hterminator := terminator_notMem_clean line.toList
  cases e with
  | error code =>
      obtain ⟨rest, hwords⟩ := read_eq_error_iff.mp hline
      have hmem : code.toList ∈ words (clean line.toList) := by simp [hwords]
      exact ⟨isWord_of_mem_words hmem, fun hc => hterminator (mem_of_mem_words hmem hc)⟩
  | value text =>
      obtain ⟨hwords, hcode, rfl⟩ := read_eq_value_iff.mp hline
      have htrimmed := isTrimmed_clean line.toList
      rw [IsStatable, String.toList_ofList]
      exact ⟨mt htrimmed.words_eq_nil_iff.mpr hwords, htrimmed, hterminator, hcode⟩

/-- A word behind the error word, as an expectation of a code is shown. -/
theorem toList_toString_error (code : String) :
    (toString (error code)).toList = errorWord ++ ' ' :: code.toList := by
  rw [show toString (error code) = "ERROR " ++ code from rfl, String.toList_append]
  rfl

/-- The line for what is shown of an expectation states that expectation. -/
theorem ofHeader_lineOf {e : Expectation} (he : e.IsStatable) :
    ofHeader (lineOf (toString e)) = .ok e := by
  cases e with
  | error code =>
      obtain ⟨hword, hterminator⟩ := he
      have hshown := toList_toString_error code
      have htrimmed : IsTrimmed (toString (error code)).toList := by
        refine ⟨fun c hc => ?_, fun c hc => ?_⟩
        · rw [hshown] at hc
          cases hc
          decide
        · rw [hshown, List.getLast?_append_of_ne_nil _ (List.cons_ne_nil _ _),
            List.getLast?_cons, List.getLast?_eq_some_getLast hword.ne_nil] at hc
          cases hc
          exact hword.not_blank _ (List.getLast_mem hword.ne_nil)
      have hkept : terminator ∉ (toString (error code)).toList := by
        rw [hshown, List.mem_append, List.mem_cons, not_or, not_or]
        exact ⟨by decide, by decide, hterminator⟩
      refine read_eq_error_iff.mpr ⟨[], ?_⟩
      rw [clean_lineOf htrimmed hkept, hshown, words_append_cons (by decide), hword.words_eq]
      rfl
  | value text =>
      obtain ⟨hne, htrimmed, hterminator, hcode⟩ := he
      refine read_eq_value_iff.mpr ?_
      rw [show toString (value text) = text from rfl, clean_lineOf htrimmed hterminator]
      exact ⟨mt htrimmed.words_eq_nil_iff.mp hne, hcode, text.ofList_toList.symm⟩

end Expectation

end Conformance
