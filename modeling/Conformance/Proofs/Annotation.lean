import Conformance.Proofs.Decoding
import Conformance.Proofs.FirstSignal
import Conformance.Proofs.Spelling

/-!
# What a test can expect

A test file states what its first line states, whatever follows the line.  The main result says which
observed outcomes a test can expect: a last line of output that holds no terminator and does not open
as the expectation of a code does, and a code of the compiler that holds no terminator.
-/

namespace Conformance

namespace Annotation

open Text

variable {line : List Char} {contents xs : Bytes}

/-- The file has this first line, and it ends there or goes on after a line feed. -/
inductive OpensWith (line : List Char) : Bytes → Prop
  | whole : OpensWith line (Utf8.encode line)
  | goesOn (rest : Bytes) : OpensWith line (Utf8.encode line ++ lineFeed :: rest)

/-- The bytes before the first line feed of a file that is not empty, or all of them. -/
inductive StandsFirst (xs : Bytes) : Bytes → Prop
  | whole (hfeed : lineFeed ∉ xs) (hne : xs ≠ []) : StandsFirst xs xs
  | ended (hfeed : lineFeed ∉ xs) (rest : Bytes) : StandsFirst xs (xs ++ lineFeed :: rest)

theorem exists_standsFirst (hne : contents ≠ []) : ∃ xs, StandsFirst xs contents := by
  by_cases hfeed : lineFeed ∈ contents
  · obtain ⟨xs, rest, rfl, hxs⟩ := List.eq_append_cons_of_mem hfeed
    exact ⟨xs, .ended hxs rest⟩
  · exact ⟨contents, .whole hfeed hne⟩

theorem StandsFirst.ne_nil (hxs : StandsFirst xs contents) : contents ≠ [] := by
  cases hxs with
  | whole _ hne => exact hne
  | ended _ rest => simp

theorem bne_lineFeed_of_mem (hfeed : lineFeed ∉ xs) : ∀ b ∈ xs, (b != lineFeed) = true :=
  fun b hb => by simpa using fun heq : b = lineFeed => hfeed (heq ▸ hb)

theorem firstLine_eq_self (hfeed : lineFeed ∉ xs) : firstLine xs = xs := by
  have hnot := bne_lineFeed_of_mem hfeed
  rw [firstLine, List.takeWhile_eq_self_iff.mpr hnot, List.dropWhile_eq_nil_iff.mpr hnot]
  simp

theorem firstLine_append (hfeed : lineFeed ∉ xs) (rest : Bytes) :
    firstLine (xs ++ lineFeed :: rest) = xs ++ [lineFeed] := by
  have hnot := bne_lineFeed_of_mem hfeed
  rw [firstLine, List.takeWhile_append_of_pos hnot, List.dropWhile_append_of_pos hnot]
  simp

theorem isBlank_of_isLineEnd {c : Char} (hc : isLineEnd c = true) : isBlank c = true := by
  have hcases : c = '\n' ∨ c = '\r' := by simpa [isLineEnd] using hc
  rcases hcases with rfl | rfl <;> decide

theorem exists_stripEnd_append (line : List Char) : ∃ w, IsGap w ∧ stripEnd line ++ w = line :=
  ⟨line.rtakeWhile isLineEnd, fun _ hc => isBlank_of_isLineEnd (List.mem_rtakeWhile_imp hc),
    List.rdropWhile_append_rtakeWhile⟩

theorem stripEnd_append_feed (line : List Char) : stripEnd (line ++ ['\n']) = stripEnd line :=
  List.rdropWhile_concat_pos isLineEnd line '\n' (by decide)

/-- The line feed behind the first line makes no difference to what the file states. -/
theorem StandsFirst.ofContents_eq (hxs : StandsFirst xs contents) :
    ofContents contents = match Utf8.decode? xs with
      | none => .error .notText
      | some line => .ok (some (String.ofList (stripEnd line))) := by
  rw [ofContents, if_neg (by simpa using hxs.ne_nil)]
  cases hxs with
  | whole hfeed _ =>
      have hline := firstLine_eq_self hfeed
      cases hdecode : Utf8.decode? contents <;> simp [hline, hdecode]
  | ended hfeed rest =>
      rw [firstLine_append hfeed, show lineFeed = UInt8.ofNat 0x0A from rfl,
        Utf8.decode?_concat (by decide)]
      have hchar : Char.ofNat 0x0A = '\n' := rfl
      cases Utf8.decode? xs with
      | none => rfl
      | some line => simp only [Option.map_some, hchar, stripEnd_append_feed]

theorem lineFeed_notMem_encode_iff : lineFeed ∉ Utf8.encode line ↔ '\n' ∉ line :=
  not_congr ⟨fun hmem => Utf8.mem_of_mem_encode hmem (by decide),
    fun hmem => Utf8.mem_encode_of_mem (n := 0x0A) (by decide) hmem⟩

theorem OpensWith.standsFirst (hne : line ≠ []) (hfeed : '\n' ∉ line)
    (hopens : OpensWith line contents) : StandsFirst (Utf8.encode line) contents := by
  have hbytes := lineFeed_notMem_encode_iff.mpr hfeed
  cases hopens with
  | whole => exact .whole hbytes (Utf8.encode_ne_nil hne)
  | goesOn rest => exact .ended hbytes rest

theorem StandsFirst.opensWith (hxs : StandsFirst (Utf8.encode line) contents) :
    '\n' ∉ line ∧ OpensWith line contents := by
  cases hxs with
  | whole hfeed _ => exact ⟨lineFeed_notMem_encode_iff.mp hfeed, .whole⟩
  | ended hfeed rest => exact ⟨lineFeed_notMem_encode_iff.mp hfeed, .goesOn rest⟩

/-- A file that states a line opens with it. -/
theorem opensWith_of_ofContents {text : String} (hcontents : ofContents contents = .ok (some text)) :
    ∃ line, '\n' ∉ line ∧ OpensWith line contents ∧ text = String.ofList (stripEnd line) := by
  have hne : contents ≠ [] := by
    rintro rfl
    cases hcontents
  obtain ⟨xs, hxs⟩ := exists_standsFirst hne
  rw [hxs.ofContents_eq] at hcontents
  split at hcontents
  case h_1 => cases hcontents
  case h_2 line hdecode =>
    obtain rfl := Utf8.decode?_eq_some_iff.mp hdecode
    obtain ⟨hfeed, hopens⟩ := hxs.opensWith
    exact ⟨line, hfeed, hopens, by simpa using hcontents.symm⟩

end Annotation

/-- Output is kept trimmed, so only its last line itself is the value that passes. -/
theorem Verdict.ofValue_outputLines_eq_pass_iff {raw last text : String}
    (hlast : (Text.outputLines raw).getLast? = some last) :
    ofValue text (Text.outputLines raw) = .pass ↔ text = last := by
  have htrimmed := (Text.of_mem_outputLines (List.mem_of_getLast? hlast)).trimmed
  rw [ofValue_eq, ofLast_eq_pass_iff, hlast]
  simp only [Option.some.injEq, exists_eq_left', htrimmed.trimEnd_eq, String.ofList_toList]
  exact eq_comm

namespace Expectation

open Annotation Header Text

variable {path : Path} {xs file : Bytes} {line : List Char}

/-- Line ends are blanks, so it does not matter to a header that they are taken off. -/
theorem ofHeader_stripEnd (line : List Char) :
    ofHeader (String.ofList (stripEnd line)) = ofHeader (String.ofList line) := by
  obtain ⟨w, hw, hline⟩ := exists_stripEnd_append line
  have hending : IsGap (String.ofList w).toList := by simpa using hw
  rw [← ofHeader_append_gap hending, ← String.ofList_append, hline]

theorem ofFile_of_standsFirst (hxs : StandsFirst xs file) :
    ofFile path (.ok file) = match Utf8.decode? xs with
      | none => .error (.expectation path ("cannot read file: " ++ IoError.notText.message))
      | some line =>
          (ofHeader (String.ofList line)).mapError fun e => .expectation path e.message := by
  rw [ofFile, show (Except.ok file).bind ofContents = ofContents file from rfl, hxs.ofContents_eq]
  cases Utf8.decode? xs with
  | none => rfl
  | some line =>
      dsimp only
      rw [ofHeader_stripEnd]
      cases ofHeader (String.ofList line) <;> rfl

theorem ofFile_of_standsFirst_encode (hfirst : StandsFirst (Utf8.encode line) file) :
    ofFile path (.ok file) =
      (ofHeader (String.ofList line)).mapError fun e => .expectation path e.message := by
  rw [ofFile_of_standsFirst hfirst, Utf8.decode?_encode]

theorem ofFile_lineOf {e : Expectation} (he : e.IsStatable) (hfeed : '\n' ∉ (toString e).toList)
    (path : Path) {contents : Bytes}
    (hopens : OpensWith (lineOf (toString e)).toList contents) :
    ofFile path (.ok contents) = .ok e := by
  have hchars : '\n' ∉ (lineOf (toString e)).toList := by simpa [lineOf] using hfeed
  have hfirst := hopens.standsFirst (by simp [lineOf]) hchars
  rw [ofFile_of_standsFirst_encode hfirst, String.ofList_toList, ofHeader_lineOf he]
  rfl

/-- The last line of an output is trimmed and not empty, so it can be expected unless it holds a
terminator or opens as the expectation of a code does; a code of the compiler is a word, so it can be
expected unless it holds a terminator.  Where it can be expected, the line for it says so, whatever
comes after it in the file. -/
theorem outcome_expressible_iff (raw : String) :
    (∀ last, (outputLines raw).getLast? = some last →
      ((∃ line text, ofHeader line = .ok (.value text) ∧
          Verdict.ofValue text (outputLines raw) = .pass) ↔
        ';' ∉ last.toList ∧ ¬ StatesCode last.toList) ∧
      (';' ∉ last.toList → ¬ StatesCode last.toList → ∀ path contents,
        OpensWith ("// " ++ last ++ ";").toList contents →
          ofFile path (.ok contents) = .ok (.value last) ∧
            Verdict.ofValue last (outputLines raw) = .pass)) ∧
    ∀ code, CompileOutcome.ofLines (outputLines raw) = .ok (.failure code) →
      ((∃ line expected, ofHeader line = .ok (.error expected) ∧
          Verdict.ofError expected (.failure code) = .pass) ↔ ';' ∉ code.toList) ∧
      (';' ∉ code.toList → ofHeader ("// ERROR " ++ code ++ ";") = .ok (.error code) ∧
        Verdict.ofError code (.failure code) = .pass) := by
  refine ⟨fun last hlast => ⟨⟨?_, ?_⟩, ?_⟩, fun code hcode => ⟨⟨?_, ?_⟩, ?_⟩⟩
  · rintro ⟨line, text, hline, hpass⟩
    obtain rfl := (Verdict.ofValue_outputLines_eq_pass_iff hlast).mp hpass
    obtain ⟨_, _, hterminator, hstates⟩ := isStatable_of_ofHeader hline
    exact ⟨hterminator, hstates⟩
  · rintro ⟨hterminator, hstates⟩
    obtain ⟨hne, htrimmed, _⟩ := of_mem_outputLines (List.mem_of_getLast? hlast)
    have he : (value last).IsStatable := ⟨hne, htrimmed, hterminator, hstates⟩
    exact ⟨_, last, ofHeader_lineOf he, (Verdict.ofValue_outputLines_eq_pass_iff hlast).mpr rfl⟩
  · intro hterminator hstates path contents hopens
    obtain ⟨hne, htrimmed, hfeed⟩ := of_mem_outputLines (List.mem_of_getLast? hlast)
    have he : (value last).IsStatable := ⟨hne, htrimmed, hterminator, hstates⟩
    exact ⟨ofFile_lineOf he hfeed path hopens,
      (Verdict.ofValue_outputLines_eq_pass_iff hlast).mpr rfl⟩
  · rintro ⟨line, expected, hline, hpass⟩
    cases Verdict.ofError_eq_pass_iff.mp hpass
    exact (isStatable_of_ofHeader hline).2
  · intro hterminator
    have he : (error code).IsStatable := ⟨CompileOutcome.isWord_of_ofLines hcode, hterminator⟩
    exact ⟨_, code, ofHeader_lineOf he, Verdict.ofError_eq_pass_iff.mpr rfl⟩
  · intro hterminator
    have he : (error code).IsStatable := ⟨CompileOutcome.isWord_of_ofLines hcode, hterminator⟩
    refine ⟨?_, Verdict.ofError_eq_pass_iff.mpr rfl⟩
    have hline : lineOf (toString (error code)) = "// ERROR " ++ code ++ ";" := by
      simp only [lineOf, show toString (error code) = "ERROR " ++ code from rfl,
        ← String.append_assoc]
      rfl
    rw [← hline]
    exact ofHeader_lineOf he

/-- An output with both a code and a last line, and a file that is no text after its first line. -/
theorem outcome_expressible_both :
    let raw := "checking\r\n FAILED TYPE\tmain\n\n  x = 7 \r\n"
    let contents := Text.Utf8.encode "// x = 7;".toList ++ lineFeed :: [0xFF, 0x0A]
    (∃ line text, ofHeader line = .ok (.value text) ∧
        Verdict.ofValue text (outputLines raw) = .pass) ∧
      ofFile ⟨"tests/a.sc"⟩ (.ok contents) = .ok (.value "x = 7") ∧
      ofHeader "// ERROR TYPE;" = .ok (.error "TYPE") := by
  intro raw contents
  have hlast : (outputLines raw).getLast? = some "x = 7" := by decide
  have hcode : CompileOutcome.ofLines (outputLines raw) = .ok (.failure "TYPE") := by decide
  have hterminator : ';' ∉ "x = 7".toList := by decide
  have hstates : ¬ StatesCode "x = 7".toList := by decide
  obtain ⟨hvalue, hfile⟩ := (outcome_expressible_iff raw).1 _ hlast
  obtain ⟨_, herror⟩ := (outcome_expressible_iff raw).2 _ hcode
  exact ⟨hvalue.mpr ⟨hterminator, hstates⟩,
    (hfile hterminator hstates ⟨"tests/a.sc"⟩ contents (.goesOn _)).1, (herror (by decide)).1⟩

end Expectation

end Conformance
