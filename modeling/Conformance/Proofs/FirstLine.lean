import Conformance.Proofs.Line
import Mathlib

/-!
# The first line of a test file

What a test file states depends on the bytes before its first line feed and on nothing behind them.
It states nothing where it has one of four flaws, and what is told of it says which.  Without a flaw
it states what its first line does as a header, whether or not the end of the line is taken as part
of it.
-/

namespace Conformance

open Text

namespace IoError

theorem toList_message_os (e : Errno) : (os e).message.toList =
    (e.text ++ " (os error").toList ++ ' ' :: ((toString e.number).toList ++ [')']) := by
  simp [message]

theorem getLast?_words_message_os (e : Errno) :
    (words (os e).message.toList).getLast? = some ((toString e.number).toList ++ [')']) := by
  have hnumber : IsWord ((toString e.number).toList ++ [')']) := by
    refine ⟨by simp, List.forall_mem_append.mpr ⟨(isWord_toString_int e.number).not_blank, ?_⟩⟩
    exact List.forall_mem_singleton.mpr (by decide)
  rw [toList_message_os, words_append_cons (by decide), hnumber.words_eq, List.getLast?_concat]

theorem message_os_inj {e e' : Errno} : (os e).message = (os e').message ↔ e = e' := by
  refine ⟨fun h => ?_, fun h => h ▸ rfl⟩
  have hwords := getLast?_words_message_os e
  rw [h, getLast?_words_message_os] at hwords
  have hdigits := List.append_cancel_right (Option.some.inj hwords)
  have hnumber : e'.number = e.number := Int.repr_injective (String.toList_inj.mp hdigits)
  cases e
  cases e'
  simpa using hnumber.symm

end IoError

/-- Why a test file states no expectation. -/
inductive Flaw where
  | unreadable (cause : IoError)
  | noLine
  | notText
  | blank
  deriving DecidableEq, Repr

namespace Flaw

def reason : Flaw → String
  | unreadable cause => "cannot read file: " ++ cause.message
  | noLine => "file is empty"
  | notText => "cannot read file: stream did not contain valid UTF-8"
  | blank => "header is empty after removing comment markers"

/-- The flaws of the files in a tree. -/
inductive IsOfTree : Flaw → Prop
  | os (e : Errno) : IsOfTree (.unreadable (.os e))
  | nulInName : IsOfTree (.unreadable .nulInName)
  | noLine : IsOfTree .noLine
  | notText : IsOfTree .notText
  | blank : IsOfTree .blank

theorem reason_unreadable (cause : IoError) :
    (unreadable cause).reason = "cannot read file: " ++ cause.message := rfl

/-- No other reason ends with the bracket behind a number. -/
theorem reason_os_ne (e : Errno) {s : String} (hs : s.toList.getLast? ≠ some ')') :
    (unreadable (.os e)).reason ≠ s := by
  rintro rfl
  exact hs (by simp [reason_unreadable, IoError.toList_message_os, List.getLast?_cons,
    List.getLast?_append])

theorem IsOfTree.eq_of_reason_eq {f g : Flaw} (hf : f.IsOfTree) (hg : g.IsOfTree)
    (h : f.reason = g.reason) : f = g := by
  -- Only the numbered errors are many, and their numbers are shown; the others are compared in pairs.
  cases hf with
  | os e =>
      cases hg with
      | os e' =>
          have hmessage : (IoError.os e).message = (IoError.os e').message := by
            rw [reason_unreadable, reason_unreadable] at h
            exact (String.append_right_inj _).mp h
          rw [IoError.message_os_inj.mp hmessage]
      | nulInName | noLine | notText | blank => exact absurd h (reason_os_ne e (by decide))
  | nulInName | noLine | notText | blank =>
      cases hg with
      | os e' => exact absurd h.symm (reason_os_ne e' (by decide))
      | nulInName | noLine | notText | blank =>
          revert h
          decide

end Flaw

namespace Expectation

open Annotation Header

/-- The flaw that shows when a file is read.  Only a file with a first line can have a bad one. -/
inductive HasFlaw : Except IoError Bytes → Flaw → Prop
  | unreadable (cause : IoError) : HasFlaw (.error cause) (.unreadable cause)
  | noLine : HasFlaw (.ok []) .noLine
  | notText {xs file : Bytes} (hfirst : StandsFirst xs file)
      (hbytes : ∀ line, xs ≠ Utf8.encode line) : HasFlaw (.ok file) .notText
  | blank {line : List Char} {file : Bytes} (hfirst : StandsFirst (Utf8.encode line) file)
      (hline : ofHeader (String.ofList line) = .error .empty) : HasFlaw (.ok file) .blank

variable {path : Path} {xs file : Bytes} {contents : Except IoError Bytes} {line : List Char}
  {flaw flaw' : Flaw}

theorem HasFlaw.ofFile_eq (hflaw : HasFlaw contents flaw) :
    ofFile path contents = .error (.expectation path flaw.reason) := by
  cases hflaw with
  | unreadable cause => rfl
  | noLine => rfl
  | notText hfirst hbytes =>
      rw [ofFile_of_standsFirst hfirst, Utf8.decode?_eq_none_iff.mpr hbytes]
      rfl
  | blank hfirst hline =>
      rw [ofFile_of_standsFirst_encode hfirst, hline]
      rfl

theorem hasFlaw_or_ofFile_eq_ok (path : Path) (contents : Except IoError Bytes) :
    (∃ flaw, HasFlaw contents flaw) ∨ ∃ e, ofFile path contents = .ok e := by
  cases contents with
  | error cause => exact .inl ⟨_, .unreadable cause⟩
  | ok file =>
      by_cases hempty : file = []
      · exact hempty ▸ .inl ⟨_, .noLine⟩
      obtain ⟨xs, hfirst⟩ := exists_standsFirst hempty
      cases hdecode : Utf8.decode? xs with
      | none => exact .inl ⟨_, .notText hfirst (Utf8.decode?_eq_none_iff.mp hdecode)⟩
      | some line =>
          obtain rfl := Utf8.decode?_eq_some_iff.mp hdecode
          cases hline : ofHeader (String.ofList line) with
          | error cause =>
              cases cause
              exact .inl ⟨_, .blank hfirst hline⟩
          | ok e =>
              refine .inr ⟨e, ?_⟩
              rw [ofFile_of_standsFirst_encode hfirst, hline]
              rfl

theorem ofFile_eq_error_iff {fault : Fault} : ofFile path contents = .error fault ↔
    ∃ flaw, HasFlaw contents flaw ∧ fault = .expectation path flaw.reason := by
  constructor
  · intro hfile
    rcases hasFlaw_or_ofFile_eq_ok path contents with ⟨flaw, hflaw⟩ | ⟨e, hok⟩
    · exact ⟨flaw, hflaw, Except.error.inj (hfile.symm.trans hflaw.ofFile_eq)⟩
    · exact absurd (hfile.symm.trans hok) (by simp)
  · rintro ⟨flaw, hflaw, rfl⟩
    exact hflaw.ofFile_eq

open FileTree in
theorem HasFlaw.isOfTree (hflaw : HasFlaw contents flaw)
    (hcauses : FailsWithin IoError.IsOfReading contents) : flaw.IsOfTree := by
  cases hflaw with
  | unreadable cause =>
      cases hcauses cause rfl with
      | os e => exact .os e
      | nulInName => exact .nulInName
  | noLine => exact .noLine
  | notText _ _ => exact .notText
  | blank _ _ => exact .blank

theorem HasFlaw.unique (hflaw : HasFlaw contents flaw) (hflaw' : HasFlaw contents flaw') :
    flaw = flaw' := by
  cases contents with
  | error cause =>
      cases hflaw
      cases hflaw'
      rfl
  | ok file =>
      have hreason : flaw.reason = flaw'.reason := by
        have hfile : ofFile ⟨""⟩ (.ok file) = .error (.expectation ⟨""⟩ flaw.reason) :=
          hflaw.ofFile_eq
        rw [hflaw'.ofFile_eq] at hfile
        simpa only [Except.error.injEq, Fault.expectation.injEq, true_and] using hfile.symm
      have hcauses := FileTree.failsWithin_ok IoError.IsOfReading file
      exact (hflaw.isOfTree hcauses).eq_of_reason_eq (hflaw'.isOfTree hcauses) hreason

/-- What a file states depends on its first line and on nothing behind it.  It states nothing
exactly where it has a flaw, of which it has one at most, and what is told of the flaws of files
tells them apart.  Where the first line is text, the file states what this line does as a header
with the line feed that ends it, from which it makes no difference to take off the line ends. -/
theorem ofFile_firstLine (path : Path) :
    (∀ xs rest rest' : Bytes, lineFeed ∉ xs →
      ofFile path (.ok (xs ++ lineFeed :: rest)) = ofFile path (.ok (xs ++ lineFeed :: rest')) ∧
        (xs ≠ [] → ofFile path (.ok (xs ++ lineFeed :: rest)) = ofFile path (.ok xs))) ∧
    (∀ contents fault, ofFile path contents = .error fault ↔
      ∃ flaw, HasFlaw contents flaw ∧ fault = .expectation path flaw.reason) ∧
    (∀ contents flaw flaw', HasFlaw contents flaw → HasFlaw contents flaw' → flaw = flaw') ∧
    (∀ (t t' : FileTree) (dir dir' : Location) (path' : Path) (flaw flaw' : Flaw),
      HasFlaw (t.read dir path) flaw → HasFlaw (t'.read dir' path') flaw' →
        flaw.reason = flaw'.reason → flaw = flaw') ∧
    (∀ line : String, '\n' ∉ line.toList →
      (∀ rest, ofFile path (.ok (Utf8.encode line.toList ++ lineFeed :: rest)) =
        (ofHeader (line ++ "\n")).mapError fun e => .expectation path e.message) ∧
      (line ≠ "" → ofFile path (.ok (Utf8.encode line.toList)) =
        (ofHeader line).mapError fun e => .expectation path e.message)) ∧
    ∀ line : String, ofHeader (String.ofList (stripEnd line.toList)) = ofHeader line := by
  have hfeed : IsGap "\n".toList := by decide
  refine ⟨?_, fun _ _ => ofFile_eq_error_iff, fun _ _ _ => HasFlaw.unique, ?_, ?_, ?_⟩
  · intro xs rest rest' hxs
    constructor
    · rw [ofFile_of_standsFirst (.ended hxs rest), ofFile_of_standsFirst (.ended hxs rest')]
    · intro hne
      rw [ofFile_of_standsFirst (.ended hxs rest), ofFile_of_standsFirst (.whole hxs hne)]
  · intro t t' dir dir' path' flaw flaw' hflaw hflaw'
    exact (hflaw.isOfTree (FileTree.failsWithin_read t dir path)).eq_of_reason_eq
      (hflaw'.isOfTree (FileTree.failsWithin_read t' dir' path'))
  · intro line hline
    have hbytes := lineFeed_notMem_encode_iff.mpr hline
    refine ⟨fun rest => ?_, fun hne => ?_⟩
    · rw [ofFile_of_standsFirst_encode (.ended hbytes rest), ofHeader_append_gap hfeed,
        String.ofList_toList]
    · have hchars : line.toList ≠ [] := fun hnil => hne (String.toList_inj.mp hnil)
      rw [ofFile_of_standsFirst_encode (.whole hbytes (Utf8.encode_ne_nil hchars)),
        String.ofList_toList]
  · intro line
    rw [ofHeader_stripEnd, String.ofList_toList]

/-- A character that the line feed cuts is a flaw, whatever follows; what follows a first line that is
text need be none.  A name that cannot be one is another flaw than a missing name. -/
theorem ofFile_firstLine_cut :
    (∀ rest, ofFile ⟨"a.sc"⟩ (.ok ([0x2F, 0xC3] ++ lineFeed :: rest)) =
      .error (.expectation ⟨"a.sc"⟩ "cannot read file: stream did not contain valid UTF-8")) ∧
    ofFile ⟨"a.sc"⟩ (.ok (Utf8.encode "// 7;\r".toList ++ [lineFeed, 0xFF, 0x0A])) =
      .ok (.value "7") ∧
    (Flaw.unreadable (.os .noEntry)).reason ≠ (Flaw.unreadable .nulInName).reason := by
  obtain ⟨hfirst, herror, -, -, htext, -⟩ := ofFile_firstLine ⟨"a.sc"⟩
  obtain ⟨-, -, -, hreasons, -, -⟩ := ofFile_firstLine ⟨""⟩
  refine ⟨?_, ?_, ?_⟩
  · intro rest
    rw [(hfirst _ rest [] (by decide)).1]
    have hbytes := Utf8.decode?_eq_none_iff.mp (show Utf8.decode? [0x2F, 0xC3] = none by decide)
    exact (herror _ _).mpr ⟨.notText, .notText (.ended (by decide) []) hbytes, rfl⟩
  · rw [(htext "// 7;\r" (by decide)).1]
    decide
  · intro hreason
    have hmissing : HasFlaw (FileTree.empty.read [] ⟨""⟩) (.unreadable (.os .noEntry)) :=
      .unreadable (.os .noEntry)
    have hnul : HasFlaw (FileTree.empty.read [] ⟨"a\x00"⟩) (.unreadable .nulInName) :=
      .unreadable .nulInName
    cases hreasons _ _ _ _ _ _ _ hmissing hnul hreason

end Expectation

end Conformance
