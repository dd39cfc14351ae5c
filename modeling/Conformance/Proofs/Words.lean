import Conformance.Text.Lines
import Mathlib.Data.List.DropRight

/-!
# Trimmed texts, words and lines

A text is trimmed when no blank stands at either of its ends; trimming leaves such a text as it is
and makes one of any other.  It takes off blanks only, so blanks that are written around a text make
no difference to it and the other characters stay.  A blank separates words: the words of a text are
those before the blank and those after it.
-/

namespace Conformance

namespace Text

variable {p : Char → Bool} {c : Char} {s t w : List Char}

/-- No blank stands at either end. -/
structure IsTrimmed (s : List Char) : Prop where
  head : ∀ c, s.head? = some c → isBlank c = false
  last : ∀ c, s.getLast? = some c → isBlank c = false

/-- A text of blanks. -/
def IsGap (w : List Char) : Prop := ∀ c ∈ w, isBlank c = true

instance : DecidablePred IsGap := fun _ => decidable_of_iff _ List.all_eq_true

theorem trimStart_gap_append (hw : IsGap w) (s : List Char) : trimStart (w ++ s) = trimStart s :=
  List.dropWhile_append_of_pos hw

theorem trimEnd_append_gap (hw : IsGap w) (s : List Char) : trimEnd (s ++ w) = trimEnd s := by
  have hrev : ∀ c ∈ w.reverse, isBlank c = true := fun c hc => hw c (List.mem_reverse.mp hc)
  rw [trimEnd, List.reverse_append, List.dropWhile_append_of_pos hrev, trimEnd]

theorem exists_gap_append_trimStart (s : List Char) : ∃ w, IsGap w ∧ w ++ trimStart s = s :=
  ⟨s.takeWhile isBlank, fun _ hc => List.mem_takeWhile_imp hc, List.takeWhile_append_dropWhile⟩

theorem exists_trimEnd_append_gap (s : List Char) : ∃ w, IsGap w ∧ trimEnd s ++ w = s :=
  ⟨s.rtakeWhile isBlank, fun _ hc => List.mem_rtakeWhile_imp hc, List.rdropWhile_append_rtakeWhile⟩

theorem exists_trim (s : List Char) : ∃ v w, IsGap v ∧ IsGap w ∧ s = v ++ trim s ++ w := by
  obtain ⟨v, hv, hstart⟩ := exists_gap_append_trimStart s
  obtain ⟨w, hw, hend⟩ := exists_trimEnd_append_gap (trimStart s)
  exact ⟨v, w, hv, hw, by rw [trim, List.append_assoc, hend, hstart]⟩

theorem mem_of_mem_trim (hc : c ∈ trim s) : c ∈ s := by
  obtain ⟨v, w, -, -, hs⟩ := exists_trim s
  rw [hs]
  exact List.mem_append_left w (List.mem_append_right v hc)

/-! ## Trimmed texts -/

theorem trimStart_eq_self_iff :
    trimStart s = s ↔ ∀ c, s.head? = some c → isBlank c = false := by
  cases s with
  | nil => simp [trimStart]
  | cons c s => simp [trimStart, List.dropWhile_eq_self_iff]

theorem trimEnd_eq_rdropWhile (s : List Char) : trimEnd s = s.rdropWhile isBlank := rfl

theorem trimEnd_eq_self_iff :
    trimEnd s = s ↔ ∀ c, s.getLast? = some c → isBlank c = false := by
  rw [trimEnd_eq_rdropWhile, List.rdropWhile_eq_self_iff]
  constructor
  · intro h c hc
    have hs : s ≠ [] := by
      rintro rfl
      simp at hc
    rw [List.getLast?_eq_some_getLast hs] at hc
    simpa [← Option.some.inj hc] using h hs
  · intro h hs
    simp [h _ (List.getLast?_eq_some_getLast hs)]

theorem isTrimmed_trim (s : List Char) : IsTrimmed (trim s) where
  head c hc := by
    obtain ⟨rest, -, hrest⟩ := exists_trimEnd_append_gap (trimStart s)
    have hhead : (trimStart s).head? = some c := by
      rw [← hrest, List.head?_append, show (trimEnd (trimStart s)).head? = some c from hc,
        Option.some_or]
    have hnot := List.head?_dropWhile_not isBlank s
    rw [show s.dropWhile isBlank = trimStart s from rfl, hhead] at hnot
    simpa using hnot
  last := trimEnd_eq_self_iff.mp (List.rdropWhile_idempotent isBlank _)

theorem IsTrimmed.trimEnd_eq (hs : IsTrimmed s) : trimEnd s = s :=
  trimEnd_eq_self_iff.mpr hs.last

theorem IsTrimmed.trim_eq (hs : IsTrimmed s) : trim s = s := by
  rw [trim, trimStart_eq_self_iff.mpr hs.head, hs.trimEnd_eq]

instance : DecidablePred IsTrimmed := fun s =>
  decidable_of_iff (trim s = s) ⟨fun htrim => htrim ▸ isTrimmed_trim s, IsTrimmed.trim_eq⟩

/-! ## Blanks around a text -/

theorem trim_gap_append (hw : IsGap w) (s : List Char) : trim (w ++ s) = trim s := by
  rw [trim, trimStart_gap_append hw, trim]

theorem trim_eq_nil_of_isGap (hw : IsGap w) : trim w = [] := by
  rw [← List.append_nil w, trim_gap_append hw]
  rfl

theorem trim_append_gap (hw : IsGap w) (s : List Char) : trim (s ++ w) = trim s := by
  rw [trim, trimStart, List.dropWhile_append]
  split
  case isTrue hnil =>
    -- With no other characters in `s`, what follows it is dropped from the front.
    have hs : trimStart s = [] := List.isEmpty_iff.mp hnil
    rw [show w.dropWhile isBlank = [] from List.dropWhile_eq_nil_iff.mpr hw, trim, hs]
  case isFalse => rw [trimEnd_append_gap hw, trim, trimStart]

theorem trim_eq_nil_iff : trim s = [] ↔ IsGap s := by
  refine ⟨fun hs => ?_, trim_eq_nil_of_isGap⟩
  obtain ⟨v, w, hv, hw, hsplit⟩ := exists_trim s
  rw [hsplit, hs, List.append_nil]
  exact fun c hc => (List.mem_append.mp hc).elim (hv c) (hw c)

/-- The characters of a text that are not blank, in their order. -/
def nonBlanks (s : List Char) : List Char := s.filter fun c => !isBlank c

theorem nonBlanks_append (s t : List Char) : nonBlanks (s ++ t) = nonBlanks s ++ nonBlanks t :=
  List.filter_append s t

theorem nonBlanks_of_isGap (hw : IsGap w) : nonBlanks w = [] := by
  rw [nonBlanks, List.filter_eq_nil_iff]
  intro c hc
  simp [hw c hc]

/-- Trimming loses blanks only. -/
theorem nonBlanks_trim (s : List Char) : nonBlanks (trim s) = nonBlanks s := by
  obtain ⟨v, w, hv, hw, hs⟩ := exists_trim s
  conv_rhs => rw [hs]
  rw [nonBlanks_append, nonBlanks_append, nonBlanks_of_isGap hv, nonBlanks_of_isGap hw]
  simp

/-! ## Words -/

theorem splitWhen_append_cons (hc : p c = true) :
    splitWhen p (s ++ c :: t) = splitWhen p s ++ splitWhen p t := by
  induction s with
  | nil => simp [splitWhen_cons, hc]
  | cons d s ih =>
      rw [List.cons_append, splitWhen_cons, splitWhen_cons, ih]
      obtain ⟨part, rest, hparts⟩ := List.exists_cons_of_ne_nil (splitWhen_ne_nil p s)
      rw [hparts]
      split <;> rfl

theorem splitWhen_eq_singleton (hs : ∀ c ∈ s, p c = false) : splitWhen p s = [s] := by
  induction s with
  | nil => rfl
  | cons c s ih =>
      rw [splitWhen_cons, ih fun d hd => hs d (List.mem_cons_of_mem c hd),
        hs c List.mem_cons_self]
      rfl

theorem splitWhen_beq_of_notMem {d : Char} (hd : d ∉ s) : splitWhen (· == d) s = [s] :=
  splitWhen_eq_singleton fun c hc => by
    simpa using fun heq : c = d => hd (heq ▸ hc)

/-- Only the empty text has nothing but one empty part. -/
theorem splitWhen_cons_ne_singleton_nil (p : Char → Bool) (c : Char) (s : List Char) :
    splitWhen p (c :: s) ≠ [[]] := by
  rw [splitWhen_cons]
  obtain ⟨part, rest, hparts⟩ := List.exists_cons_of_ne_nil (splitWhen_ne_nil p s)
  rw [hparts]
  split <;> simp

/-- The parts are made of what does not separate them. -/
theorem of_mem_splitWhen {part : List Char} (hpart : part ∈ splitWhen p s) (hc : c ∈ part) :
    p c = false ∧ c ∈ s := by
  induction s generalizing part with
  | nil => simp_all
  | cons d s ih =>
      rw [splitWhen_cons] at hpart
      obtain ⟨first, rest, hparts⟩ := List.exists_cons_of_ne_nil (splitWhen_ne_nil p s)
      rw [hparts] at hpart ih
      by_cases hd : p d = true
      · rw [if_pos hd] at hpart
        rcases List.mem_cons.mp hpart with rfl | hpart
        · simp at hc
        · exact (ih hpart hc).imp_right (List.mem_cons_of_mem d)
      · rw [if_neg hd] at hpart
        rcases List.mem_cons.mp hpart with rfl | hpart
        · rcases List.mem_cons.mp hc with rfl | hc
          · exact ⟨by simpa using hd, List.mem_cons_self⟩
          · exact (ih List.mem_cons_self hc).imp_right (List.mem_cons_of_mem d)
        · exact (ih (List.mem_cons_of_mem _ hpart) hc).imp_right (List.mem_cons_of_mem d)

/-- A text that is one word. -/
structure IsWord (w : List Char) : Prop where
  ne_nil : w ≠ []
  not_blank : ∀ c ∈ w, isBlank c = false

instance : DecidablePred IsWord := fun w =>
  decidable_of_iff (w.isEmpty = false ∧ (w.all fun c => !isBlank c) = true)
    ⟨fun ⟨hne, hw⟩ => ⟨by simpa using hne, by simpa using hw⟩,
      fun hw => ⟨by simpa using hw.ne_nil, by simpa using hw.not_blank⟩⟩

theorem isWord_of_mem_words (hw : w ∈ words s) : IsWord w := by
  obtain ⟨hpart, hne⟩ := List.mem_filter.mp hw
  exact ⟨by simpa using hne, fun c hc => (of_mem_splitWhen hpart hc).1⟩

theorem mem_of_mem_words (hw : w ∈ words s) (hc : c ∈ w) : c ∈ s :=
  (of_mem_splitWhen (List.mem_of_mem_filter hw) hc).2

theorem words_append_cons (hc : isBlank c = true) :
    words (s ++ c :: t) = words s ++ words t := by
  rw [words, splitWhen_append_cons hc, List.filter_append, words, words]

theorem IsWord.words_eq (hw : IsWord w) : words w = [w] := by
  rw [words, splitWhen_eq_singleton hw.not_blank]
  simp [hw.ne_nil]

/-- Words that are written with one blank between them are read back. -/
theorem words_intercalate {c : Char} (hc : isBlank c = true) {ws : List (List Char)}
    (hws : ∀ w ∈ ws, IsWord w) : words ([c].intercalate ws) = ws := by
  induction ws with
  | nil => rfl
  | cons w ws ih =>
      obtain ⟨hw, hrest⟩ := List.forall_mem_cons.mp hws
      cases ws with
      | nil => simpa using hw.words_eq
      | cons next ws =>
          rw [List.intercalate_cons_cons, List.append_assoc, List.singleton_append,
            words_append_cons hc, hw.words_eq, ih hrest]
          rfl

theorem words_cons_ne_nil (hc : isBlank c = false) : words (c :: s) ≠ [] := by
  rw [words, splitWhen_cons, hc]
  obtain ⟨part, rest, hparts⟩ := List.exists_cons_of_ne_nil (splitWhen_ne_nil isBlank s)
  simp [hparts]

theorem IsWord.isTrimmed (hw : IsWord w) : IsTrimmed w where
  head c hc := hw.not_blank c (List.mem_of_head? hc)
  last c hc := hw.not_blank c (List.mem_of_getLast? hc)

theorem words_gap_append (hw : IsGap w) (s : List Char) : words (w ++ s) = words s := by
  induction w with
  | nil => rfl
  | cons c w ih =>
      obtain ⟨hc, hrest⟩ := List.forall_mem_cons.mp hw
      have hfirst := words_append_cons (s := []) (t := w ++ s) hc
      rw [List.cons_append, ← ih hrest]
      exact hfirst

theorem words_eq_nil_iff : words s = [] ↔ IsGap s := by
  constructor
  · intro hwords
    obtain ⟨w, hw, hs⟩ := exists_gap_append_trimStart s
    rw [← hs, words_gap_append hw] at hwords
    cases hstart : trimStart s with
    | nil =>
        rw [hstart, List.append_nil] at hs
        exact hs ▸ hw
    | cons c rest =>
        have hnot := List.head?_dropWhile_not isBlank s
        rw [show s.dropWhile isBlank = c :: rest from hstart] at hnot
        rw [hstart] at hwords
        exact absurd hwords (words_cons_ne_nil (by simpa using hnot))
  · intro hs
    rw [← List.append_nil s, words_gap_append hs]
    rfl

/-- Behind blanks the text goes on with this word, which ends where `rest` begins. -/
structure LeadsWith (w rest s : List Char) : Prop where
  isWord : IsWord w
  ends (c : Char) : rest.head? = some c → isBlank c = true
  split : ∃ v, IsGap v ∧ s = v ++ w ++ rest

theorem LeadsWith.words_eq {rest : List Char} (h : LeadsWith w rest s) :
    words s = w :: words rest := by
  obtain ⟨hword, hends, v, hv, rfl⟩ := h
  rw [List.append_assoc, words_gap_append hv]
  cases rest with
  | nil => rw [List.append_nil, hword.words_eq, words_eq_nil_iff.mpr (by simp [IsGap])]
  | cons c rest =>
      have hc : isBlank c = true := hends c rfl
      have hrest : words (c :: rest) = words rest := words_append_cons (s := []) hc
      rw [words_append_cons hc, hword.words_eq, hrest, List.singleton_append]

/-- A text that is not blank leads with its first word. -/
theorem exists_leadsWith (hs : ¬ IsGap s) : ∃ w rest, LeadsWith w rest s := by
  obtain ⟨v, hv, hstart⟩ := exists_gap_append_trimStart s
  have hne : trimStart s ≠ [] := by
    intro hnil
    rw [hnil, List.append_nil] at hstart
    exact hs (hstart ▸ hv)
  obtain ⟨c, tail, htail⟩ := List.exists_cons_of_ne_nil hne
  have hc : isBlank c = false := by
    have hnot := List.head?_dropWhile_not isBlank s
    rw [show s.dropWhile isBlank = c :: tail from htail] at hnot
    simpa using hnot
  let p (c : Char) : Bool := !isBlank c
  refine ⟨(trimStart s).takeWhile p, (trimStart s).dropWhile p, ?_, ?_, v, hv, ?_⟩
  · refine ⟨by simp [htail, p, hc], fun d hd => ?_⟩
    have hd' : p d = true := List.mem_takeWhile_imp hd
    simpa [p] using hd'
  · intro d hd
    have hnot := List.head?_dropWhile_not p (trimStart s)
    rw [hd] at hnot
    simpa [p] using hnot
  · rw [List.append_assoc, List.takeWhile_append_dropWhile, hstart]

theorem words_eq_cons_iff {ws : List (List Char)} :
    words s = w :: ws ↔ ∃ rest, LeadsWith w rest s ∧ words rest = ws := by
  constructor
  · intro hwords
    have hs : ¬ IsGap s := by
      intro hgap
      rw [words_eq_nil_iff.mpr hgap] at hwords
      cases hwords
    obtain ⟨w', rest, hleads⟩ := exists_leadsWith hs
    rw [hleads.words_eq] at hwords
    obtain ⟨rfl, hrest⟩ := List.cons.inj hwords
    exact ⟨rest, hleads, hrest⟩
  · rintro ⟨rest, hleads, rfl⟩
    exact hleads.words_eq

/-- A trimmed text of one word is this word. -/
theorem IsTrimmed.words_eq_singleton_iff (hs : IsTrimmed s) :
    words s = [w] ↔ IsWord w ∧ s = w := by
  constructor
  · intro hwords
    obtain ⟨rest, ⟨hword, -, v, hv, hsplit⟩, hrest⟩ := words_eq_cons_iff.mp hwords
    have hgap : IsGap rest := words_eq_nil_iff.mp hrest
    refine ⟨hword, ?_⟩
    rw [← hs.trim_eq, hsplit, trim_append_gap hgap, trim_gap_append hv, hword.isTrimmed.trim_eq]
  · rintro ⟨hword, rfl⟩
    exact hword.words_eq

/-- A trimmed text without words is empty. -/
theorem IsTrimmed.words_eq_nil_iff (hs : IsTrimmed s) : words s = [] ↔ s = [] := by
  constructor
  · intro hwords
    cases s with
    | nil => rfl
    | cons c s => exact absurd hwords (words_cons_ne_nil (hs.head c rfl))
  · rintro rfl
    rfl

/-! ## Lines -/

/-- A line as it is kept of an output. -/
structure IsOutputLine (line : List Char) : Prop where
  ne_nil : line ≠ []
  trimmed : IsTrimmed line
  feed : '\n' ∉ line

theorem of_mem_trimmedLines (hw : w ∈ trimmedLines s) : IsOutputLine w := by
  obtain ⟨htrimmed, hne⟩ := List.mem_filter.mp hw
  obtain ⟨part, hpart, rfl⟩ := List.mem_map.mp htrimmed
  refine ⟨by simpa using hne, isTrimmed_trim part, fun hmem => ?_⟩
  simpa using (of_mem_splitWhen hpart (mem_of_mem_trim hmem)).1

theorem of_mem_outputLines {raw line : String} (hline : line ∈ outputLines raw) :
    IsOutputLine line.toList := by
  obtain ⟨chars, hchars, rfl⟩ := List.mem_map.mp hline
  rw [String.toList_ofList]
  exact of_mem_trimmedLines hchars

end Text

end Conformance
