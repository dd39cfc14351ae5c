import Conformance.Proofs.Header

/-!
# Spellings of a header

A header line may begin with blanks, open with a comment marker or not, hold terminators anywhere
and end in blanks.  What it states depends on none of this, only on the text that is left when all
of it is gone.  An expectation that some line states is stated by the line that shows it between a
marker and a terminator, so no two of them are shown alike.
-/

namespace Conformance

namespace Header

open Text

variable {s t w line lead body : List Char}

/-- The first two characters behind the blanks are a comment marker. -/
def OpensWithMarker (line : List Char) : Prop :=
  ∃ lead body, IsGap lead ∧ line = lead ++ '/' :: '/' :: body

/-- There is nothing but blanks and terminators. -/
def IsIdle (s : List Char) : Prop := ∀ c ∈ s, isBlank c = true ∨ c = terminator

/-! ## Terminators and blanks -/

theorem bare_append_gap (hw : IsGap w) (s : List Char) : bare (s ++ w) = bare s := by
  rw [bare, List.filter_append, trim_append_gap (isGap_filter hw _), bare]

theorem bare_trimStart (s : List Char) : bare (trimStart s) = bare s := by
  obtain ⟨w, hw, hs⟩ := exists_gap_append_trimStart s
  rw [← bare_gap_append hw (trimStart s), hs]

theorem bare_eq_nil_iff : bare s = [] ↔ IsIdle s := by
  have hchar (c : Char) : (c != terminator) = true → isBlank c = true ↔
      isBlank c = true ∨ c = terminator := by
    rw [bne_iff_ne]
    tauto
  rw [bare, trim_eq_nil_iff, IsGap, IsIdle]
  simp only [List.mem_filter, and_imp, hchar]

/-! ## Markers -/

theorem opensWithMarker_iff : OpensWithMarker line ↔ ['/', '/'] <+: trimStart line := by
  constructor
  · rintro ⟨lead, body, hlead, rfl⟩
    exact ⟨body, (trimStart_lead hlead body).symm⟩
  · rintro ⟨body, hbody⟩
    obtain ⟨lead, hlead, hline⟩ := exists_gap_append_trimStart line
    exact ⟨lead, body, hlead, by rw [← hline, ← hbody]; rfl⟩

instance : DecidablePred OpensWithMarker := fun _ => decidable_of_iff _ opensWithMarker_iff.symm

theorem dropMarker_eq_self (hs : ¬ ['/', '/'] <+: s) : dropMarker s = s := by
  unfold dropMarker
  split
  · exact absurd ⟨_, rfl⟩ hs
  · rfl

theorem clean_of_not_opensWithMarker (hline : ¬ OpensWithMarker line) : clean line = bare line := by
  rw [clean, dropMarker_eq_self (mt opensWithMarker_iff.mpr hline), ← bare_trimStart, bare]

/-- Blanks behind a line cannot be part of a marker. -/
theorem opensWithMarker_append_gap (hw : IsGap w) :
    OpensWithMarker (line ++ w) ↔ OpensWithMarker line := by
  constructor
  · rintro ⟨lead, body, hlead, heq⟩
    have hsplit : line ++ w = (lead ++ ['/', '/']) ++ body := by simpa using heq
    rcases List.append_eq_append_iff.mp hsplit with ⟨front, hmarker, hfront⟩ | ⟨rest, hline, _⟩
    · have hgap : IsGap front := fun c hc => hw c (hfront ▸ List.mem_append_left body hc)
      rcases List.eq_nil_or_concat front with rfl | ⟨init, c, rfl⟩
      · exact ⟨lead, [], hlead, by simpa using hmarker.symm⟩
      · have hlast : c = '/' := by
          have hends := congrArg List.getLast? hmarker
          simpa using hends.symm
        exact absurd (hgap c (by simp)) (by rw [hlast]; decide)
    · exact ⟨lead, rest, hlead, by simpa using hline⟩
  · rintro ⟨lead, body, hlead, rfl⟩
    exact ⟨lead, body ++ w, hlead, by simp⟩

theorem clean_append_gap (hw : IsGap w) (line : List Char) : clean (line ++ w) = clean line := by
  by_cases hline : OpensWithMarker line
  · obtain ⟨lead, body, hlead, rfl⟩ := hline
    rw [List.append_assoc, List.cons_append, List.cons_append, clean_marker hlead,
      clean_marker hlead, bare_append_gap hw]
  · rw [clean_of_not_opensWithMarker hline, ← bare_append_gap hw,
      clean_of_not_opensWithMarker (mt (opensWithMarker_append_gap hw).mp hline)]

/-! ## Lines that state nothing -/

theorem clean_eq_nil_iff : clean line = [] ↔
    IsIdle line ∨ ∃ lead body, IsGap lead ∧ IsIdle body ∧ line = lead ++ '/' :: '/' :: body := by
  by_cases hline : OpensWithMarker line
  · obtain ⟨lead, body, hlead, rfl⟩ := hline
    rw [clean_marker hlead, bare_eq_nil_iff]
    constructor
    · exact fun hbody => .inr ⟨lead, body, hlead, hbody, rfl⟩
    · rintro (hidle | ⟨lead', body', hlead', hbody', heq⟩)
      · exact fun c hc => hidle c (by simp [hc])
      · -- The marker stands behind the blanks, so both splittings are one.
        have hstart := congrArg trimStart heq
        rw [trimStart_lead hlead, trimStart_lead hlead'] at hstart
        obtain rfl : body = body' := by simpa using hstart
        exact hbody'
  · rw [clean_of_not_opensWithMarker hline, bare_eq_nil_iff]
    constructor
    · exact .inl
    · rintro (hidle | ⟨lead, body, hlead, -, rfl⟩)
      · exact hidle
      · exact absurd ⟨lead, body, hlead, rfl⟩ hline

theorem read_eq_empty_iff : read s = .error .empty ↔ words s = [] := by
  unfold read
  rcases words s with _ | ⟨keyword, _ | ⟨code, rest⟩⟩
  · simp
  · simp
  · by_cases hkeyword : keyword = errorWord <;> simp [hkeyword]

end Header

namespace Expectation

open Header Text

variable {line lead : String} {e e' : Expectation}

theorem toList_marked (lead body : String) :
    (lead ++ "//" ++ body).toList = lead.toList ++ '/' :: '/' :: body.toList := by
  rw [String.toList_append, String.toList_append, List.append_assoc]
  rfl

theorem ofHeader_append_gap {ending : String} (hending : IsGap ending.toList) (line : String) :
    ofHeader (line ++ ending) = ofHeader line := by
  rw [ofHeader, String.toList_append, clean_append_gap hending, ofHeader]

theorem ofHeader_marked (hlead : IsGap lead.toList) (body : String) :
    ofHeader (lead ++ "//" ++ body) = read (bare body.toList) := by
  rw [ofHeader, toList_marked, clean_marker hlead]

theorem ofHeader_of_not_opensWithMarker (hline : ¬ OpensWithMarker line.toList) :
    ofHeader line = read (bare line.toList) := by
  rw [ofHeader, clean_of_not_opensWithMarker hline]

theorem ofHeader_eq_empty_iff : ofHeader line = .error .empty ↔ clean line.toList = [] := by
  rw [ofHeader, read_eq_empty_iff, (isTrimmed_clean _).words_eq_nil_iff]

/-- Each of two expectations is stated by the line for what is shown of it. -/
theorem eq_of_toString_eq (he : e.IsStatable) (he' : e'.IsStatable)
    (hshown : toString e = toString e') : e = e' := by
  have hline := ofHeader_lineOf he
  rw [hshown, ofHeader_lineOf he'] at hline
  exact (Except.ok.inj hline).symm

/-- The expectations that lines state are words without a terminator as codes, and as values trimmed
texts without a terminator that are not empty and do not open as the expectation of a code does.
Each of them is read back from what is shown of it between a marker and a terminator, whatever
blanks end the line, and what is shown of it is shown of no other. -/
theorem ofHeader_roundTrip (e : Expectation) :
    ((∃ line, ofHeader line = .ok e) ↔ e.IsStatable) ∧
    (e.IsStatable → ∀ ending : String, IsGap ending.toList →
      ofHeader ("// " ++ toString e ++ ";" ++ ending) = .ok e) ∧
    ∀ (line line' : String) (e' : Expectation), ofHeader line = .ok e → ofHeader line' = .ok e' →
      toString e = toString e' → e = e' := by
  refine ⟨⟨?_, ?_⟩, ?_, ?_⟩
  · rintro ⟨line, hline⟩
    exact isStatable_of_ofHeader hline
  · exact fun he => ⟨_, ofHeader_lineOf he⟩
  · intro he ending hending
    rw [ofHeader_append_gap hending]
    exact ofHeader_lineOf he
  · intro line line' e' hline hline' hshown
    exact eq_of_toString_eq (isStatable_of_ofHeader hline) (isStatable_of_ofHeader hline') hshown

/-- A value that is itself written like a marked header, on a line that ends with both characters of
a line end. -/
theorem ofHeader_roundTrip_marker :
    (value "// ERROR").IsStatable ∧ IsGap "\r\n".toList ∧
      ofHeader "// // ERROR;\r\n" = .ok (value "// ERROR") := by
  have he : (value "// ERROR").IsStatable :=
    ⟨by decide, by decide, by decide, by decide⟩
  have hending : IsGap "\r\n".toList := by decide
  have hline : "// " ++ toString (value "// ERROR") ++ ";" ++ "\r\n" = "// // ERROR;\r\n" := by
    decide
  exact ⟨he, hending, hline ▸ (ofHeader_roundTrip _).2.1 he _ hending⟩

/-- Behind a marker only the text counts that is left without terminators and without the blanks
around it, the marker itself may be missing where the line does not open with another, and a line
states nothing if it holds blanks and terminators only, at most one marker behind the first blanks
aside. -/
theorem ofHeader_spelling (line : String) :
    (∀ lead lead' body body' : String, IsGap lead.toList → IsGap lead'.toList →
      trim (body.toList.filter (· != ';')) = trim (body'.toList.filter (· != ';')) →
        ofHeader (lead ++ "//" ++ body) = ofHeader (lead' ++ "//" ++ body')) ∧
    (¬ OpensWithMarker line.toList → ofHeader line = ofHeader ("//" ++ line)) ∧
    (ofHeader line = .error .empty ↔ ∃ lead marker body : String, line = lead ++ marker ++ body ∧
      IsGap lead.toList ∧ (marker = "" ∨ marker = "//") ∧
        ∀ c ∈ body.toList, isBlank c = true ∨ c = ';') := by
  refine ⟨?_, ?_, ?_⟩
  · intro lead lead' body body' hlead hlead' hbody
    rw [ofHeader_marked hlead, ofHeader_marked hlead']
    exact congrArg read hbody
  · intro hline
    have hlead : IsGap "".toList := List.forall_mem_nil _
    rw [ofHeader_of_not_opensWithMarker hline]
    exact (ofHeader_marked hlead line).symm
  · rw [ofHeader_eq_empty_iff, clean_eq_nil_iff]
    constructor
    · rintro (hidle | ⟨lead, body, hlead, hbody, hline⟩)
      · exact ⟨"", "", line, by simp, List.forall_mem_nil _, .inl rfl, hidle⟩
      · refine ⟨String.ofList lead, "//", String.ofList body, ?_, by simpa using hlead, .inr rfl,
          fun c hc => hbody c (by simpa using hc)⟩
        rw [← String.toList_inj, toList_marked, String.toList_ofList, String.toList_ofList, hline]
    · rintro ⟨lead, marker, body, rfl, hlead, rfl | rfl, hbody⟩
      · left
        intro c hc
        rw [String.append_empty, String.toList_append] at hc
        exact (List.mem_append.mp hc).elim (fun hc => .inl (hlead c hc)) (hbody c)
      · exact .inr ⟨lead.toList, body.toList, hlead, hbody, toList_marked lead body⟩

/-- A terminator between two slashes keeps them from being a marker, and it is gone afterwards. -/
theorem ofHeader_spelling_divided :
    ¬ OpensWithMarker "/;/ 7".toList ∧ ofHeader "/;/ 7" = ofHeader "///;/ 7" ∧
      ofHeader "\u00a0//;7; 8" = ofHeader "// 7 8;\r\n" := by
  have hopens : ¬ OpensWithMarker "/;/ 7".toList := by decide
  obtain ⟨hbodies, hunmarked, -⟩ := ofHeader_spelling "/;/ 7"
  have hlines : "//" ++ "/;/ 7" = "///;/ 7" ∧ "\u00a0" ++ "//" ++ ";7; 8" = "\u00a0//;7; 8" ∧
      "" ++ "//" ++ " 7 8;\r\n" = "// 7 8;\r\n" := by decide
  obtain ⟨hmarked, hleft, hright⟩ := hlines
  refine ⟨hopens, hmarked ▸ hunmarked hopens, ?_⟩
  rw [← hleft, ← hright]
  exact hbodies _ _ _ _ (by decide) (by decide) (by decide)

end Expectation

end Conformance
