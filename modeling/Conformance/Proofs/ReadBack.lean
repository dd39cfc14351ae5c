import Conformance.Proofs.Accounting
import Conformance.Proofs.Judgement
import Conformance.Proofs.Line
import Conformance.Proofs.Outcome
import Conformance.Proofs.Waiting

/-!
# Reading a report back

What goes into the message of a failure comes from the path of the test, the first line of its file,
the lines that the stages have printed and the messages of faults.  If none of these holds a line
feed, no message does, so a report is one line for each count and one for each message, and nothing
of it is lost in its text.
-/

namespace Conformance

open Text

theorem Header.mem_of_mem_clean {line : List Char} {c : Char} (hc : c ∈ clean line) : c ∈ line := by
  have hkept := List.mem_of_mem_filter (mem_of_mem_trim hc)
  have hstart : c ∈ trimStart line := by
    generalize trimStart line = start at hkept ⊢
    rw [dropMarker.eq_def] at hkept
    split at hkept
    · simp [hkept]
    · exact hkept
  exact (List.dropWhile_suffix isBlank).subset hstart

namespace Annotation

variable {contents : Bytes}

theorem failsInLine_ofContents (contents : Bytes) :
    FileTree.FailsInLine (ofContents contents) := by
  rw [ofContents]
  split
  · exact FileTree.failsInLine_ok _
  split
  · rintro cause ⟨⟩
    simp [IsLine, IoError.message]
  · exact FileTree.failsInLine_ok _

theorem isLine_of_ofContents {text : String} (htext : ofContents contents = .ok (some text)) :
    IsLine text := by
  obtain ⟨line, hfeed, _, rfl⟩ := opensWith_of_ofContents htext
  exact isLine_ofList.mpr fun hmem => hfeed ((List.rdropWhile_prefix isLineEnd line).subset hmem)

end Annotation

namespace Expectation

variable {line : String} {e : Expectation} {path : Path} {contents : Except IoError Bytes}

/-- What is stated is a line. -/
def InLine : Expectation → Prop
  | error code => IsLine code
  | value text => IsLine text

theorem inLine_of_ofHeader (hline : IsLine line) (he : ofHeader line = .ok e) : e.InLine := by
  cases e with
  | error code => exact (isStatable_of_ofHeader he).1.isLine
  | value text =>
      obtain ⟨_, _, rfl⟩ := Header.read_eq_value_iff.mp he
      exact isLine_ofList.mpr fun hmem => hline (Header.mem_of_mem_clean hmem)

/-- What is wrong with a file is told on one line, and what it states is stated on one. -/
theorem ofFile_inLine (hpath : IsLine path.text) (hcontents : FileTree.FailsInLine contents) :
    (∀ fault, ofFile path contents = .error fault → IsLine fault.message) ∧
      ∀ e, ofFile path contents = .ok e → e.InLine := by
  have hfails : FileTree.FailsInLine (contents.bind Annotation.ofContents) :=
    hcontents.bind Annotation.failsInLine_ofContents
  have hreason {reason : String} (h : IsLine reason) :
      IsLine (Fault.expectation path reason).message := by
    refine IsLine.append (.append (.append ?_ hpath) ?_) h
    · simp [IsLine]
    · simp [IsLine]
  rw [ofFile]
  split
  · rename_i cause hcause
    refine ⟨?_, by simp⟩
    rintro _ ⟨⟩
    exact hreason (.append (by simp [IsLine]) (hfails cause hcause))
  · refine ⟨?_, by simp⟩
    rintro _ ⟨⟩
    exact hreason (by simp [IsLine])
  · rename_i line hline
    split
    · rename_i header _
      refine ⟨?_, by simp⟩
      rintro _ ⟨⟩
      cases header
      exact hreason (by simp [IsLine, HeaderError.message])
    · rename_i stated hstated
      refine ⟨by simp, ?_⟩
      rintro _ ⟨⟩
      cases contents with
      | error cause => cases hline
      | ok bytes =>
          have hfirst := Annotation.isLine_of_ofContents hline
          exact inLine_of_ofHeader hfirst hstated

end Expectation

/-- A result of a stage has its output in the normal form, or its fault is told on one line. -/
def InLines : Except Fault Capture → Prop
  | .ok capture => ∃ raw, capture.lines = outputLines raw
  | .error fault => IsLine fault.message

theorem InLines.isLine_of_mem {capture : Capture} {line : String} (h : InLines (.ok capture))
    (hline : line ∈ capture.lines) : IsLine line := by
  obtain ⟨raw, hraw⟩ := h
  rw [hraw] at hline
  exact isLine_of_mem_outputLines hline

namespace Signal

variable {line code : String}

theorem isLine_of_first? {capture : Capture} (h : InLines (.ok capture))
    (hfirst : Signal.first? capture.lines = some line) : IsLine line :=
  h.isLine_of_mem (List.mem_of_find?_eq_some hfirst)

theorem isLine_of_code? (hcode : Signal.code? line = some code) :
    IsLine code := by
  obtain ⟨word, hword, rfl⟩ := Option.map_eq_some_iff.mp hcode
  refine IsWord.isLine ?_
  rw [String.toList_ofList]
  exact isWord_of_mem_words (List.mem_of_getElem? hword)

end Signal

/-- So it is with all that comes of sources whose paths are lines, and of what was built. -/
structure Toolchain.InLines {σ : Type} (tools : Toolchain σ) : Prop where
  compile : ∀ source s, IsLine source.text → Conformance.InLines (tools.compile source s).1
  build : ∀ s fault, (tools.build s).1 = .error fault → IsLine fault.message
  execute : ∀ s artifact t, tools.build s = (.ok artifact, t) →
    Conformance.InLines (tools.execute artifact t).1

namespace Host

variable {σ : Type} {host : Host σ} {settings : Settings}

/-- What goes wrong on a host is told on one line. -/
structure FailsInLine (host : Host σ) : Prop where
  remove (path : Path) (s : σ) : FileTree.FailsInLine (host.remove path s)
  start (command : Command) (until? : Option Nat) (s : σ) :
    FileTree.FailsInLine (host.start command until? s)
  exit {command : Command} {until? : Option Nat} {s : σ} {started : Started σ} {now : Nat}
    {cause : IoError} : host.start command until? s = .ok started →
    started.course.Answered now (.error cause) → IsLine cause.message

theorem isLine_invocation {label : String} {cause : IoError} (hlabel : IsLine label)
    (hcause : IsLine cause.message) : IsLine (Fault.invocation label cause).message := by
  refine IsLine.append (.append (.append ?_ hlabel) ?_) hcause
  · simp [IsLine]
  · simp [IsLine]

theorem isLine_overtime {label : String} (hlabel : IsLine label) (limit : Span) :
    IsLine (Fault.overtime label limit).message := by
  refine IsLine.append (.append (.append (.append ?_ hlabel) ?_) (isWord_toString _).isLine) ?_
  · simp [IsLine]
  · simp [IsLine]
  · simp [IsLine]

theorem capture_inLines {limit : Option Span} {label : String} {command : Command} {s t : σ}
    {result : Except Fault Capture} (hhost : host.FailsInLine) (hlabel : IsLine label)
    (hcapture : host.capture limit label command s = .returned result t) : InLines result := by
  cases captures_of_eq hcapture with
  | notStarted _ hcause =>
      refine isLine_invocation hlabel ?_
      rcases hcause with rfl | hcause
      · simp [IsLine, IoError.message]
      · exact hhost.start _ _ _ _ hcause
  | finished hstart hending => exact ⟨_, rfl⟩
  | @failed started time cause hstart hending =>
      have hreturns : started.course.Returns _ (.failed time cause) :=
        Course.returns_iff.mpr ⟨hending, by simp⟩
      exact isLine_invocation hlabel (hhost.exit hstart (Course.kept_of_reaches hreturns).2)
  | overtime hstart hending => exact isLine_overtime hlabel _

theorem isLine_anchored {path : Path} (hpath : IsLine path.text) : IsLine path.anchored.text := by
  rw [Path.anchored]
  split
  · exact .append (by simp [IsLine]) hpath
  · exact hpath

theorem build_inLines {fault : Fault} {s t : σ} (hhost : host.FailsInLine)
    (hlabel : IsLine (toString settings.build)) (hpath : IsLine settings.executable.text)
    (hbuild : host.build settings s = .returned (.error fault) t) : IsLine fault.message := by
  have hanchored := isLine_anchored hpath
  cases builds_of_eq hbuild with
  | stale hclear =>
      rw [clear] at hclear
      split at hclear
      · cases hclear
      · cases hclear
      · rename_i cause _ hcause
        cases hclear
        refine IsLine.append (.append (.append ?_ hanchored) ?_) (hhost.remove _ _ _ hcause)
        · simp [IsLine]
        · simp [IsLine]
  | failed hclear hcapture => exact capture_inLines hhost hlabel hcapture
  | missing hclear hcapture hfile =>
      refine IsLine.append (.append ?_ hanchored) ?_
      · simp [IsLine]
      · simp [IsLine]

/-- The toolchain of a host prints lines if its commands and the path of the executable are lines,
and so are the messages of the host. -/
theorem inLines_toolchain (hhost : host.FailsInLine) (hcompiler : IsLine (toString settings.compiler))
    (hbuild : IsLine (toString settings.build)) (hpath : IsLine settings.executable.text) :
    (host.toolchain settings).InLines where
  compile source x hsource := by
    obtain hstop | ⟨s, t, hcompile⟩ := Session.stage_fst_cases (host.compile settings source) x
    · change Conformance.InLines (Session.stage _ x).1
      rw [hstop]
      exact isLine_overtime (by simp [IsLine]) _
    · exact capture_inLines hhost (.append (.append hcompiler (by simp [IsLine])) hsource) hcompile
  build x fault hfault := by
    obtain hstop | ⟨s, t, hreply⟩ := Session.stage_fst_cases (host.build settings) x
    · cases hfault.symm.trans hstop
      exact isLine_overtime (by simp [IsLine]) _
    · exact build_inLines hhost hbuild hpath (hreply.trans (by rw [← hfault]; rfl))
  execute x artifact y hartifact := by
    obtain ⟨s, t, rfl, rfl, hbuilt⟩ := Session.stage_eq_ok hartifact
    obtain hstop | ⟨s, u, hexecute⟩ :=
      Session.stage_fst_cases (host.execute settings artifact) (.going t)
    · change Conformance.InLines (Session.stage _ _).1
      rw [hstop]
      exact isLine_overtime (by simp [IsLine]) _
    · cases builds_of_eq hbuilt with
      | built =>
          obtain ⟨_, hcapture⟩ := capture_of_execute hexecute
          exact capture_inLines hhost (isLine_anchored hpath) hcapture

end Host

namespace Report

variable {r q : Report}

/-- The messages are lines. -/
def InLines (r : Report) : Prop := ∀ message ∈ r.failures, IsLine message

theorem inLines_empty : empty.InLines := by
  simp [InLines, empty]

theorem InLines.record {test : String} {verdict : Verdict} (hr : r.InLines) (htest : IsLine test)
    (hverdict : ∀ reason, verdict = .fail reason → IsLine reason) :
    (r.record test verdict).InLines := by
  cases verdict with
  | pass => exact hr
  | fail reason =>
      intro message hmessage
      rcases List.mem_append.mp hmessage with hold | hnew
      · exact hr message hold
      · rw [List.mem_singleton.mp hnew]
        refine .append (.append (.append ?_ htest) ?_) (hverdict reason rfl)
        · simp [IsLine]
        · simp [IsLine]

theorem InLines.isLine_of_mem_lines (hr : r.InLines) : ∀ line ∈ r.lines, IsLine line := by
  intro line hline
  rcases List.mem_cons.mp hline with rfl | hline
  · exact .append (isWord_toString r.passed).isLine (by simp [IsLine])
  rcases List.mem_cons.mp hline with rfl | hline
  · exact .append (isWord_toString r.failed).isLine (by simp [IsLine])
  · exact hr line hline

/-- Each line of the text ends with a line feed. -/
theorem InLines.splitLines_toText (hr : r.InLines) :
    splitLines r.toText.toList = r.lines.map String.toList ++ [[]] :=
  splitLines_unlines hr.isLine_of_mem_lines

/-! ## The reader -/

/-- The number that stands before a word. -/
def countBefore? (word : String) (line : List Char) : Option Nat :=
  match words line with
  | [numeral, follower] => if follower = word.toList then Decimal.readDigits numeral else none
  | _ => none

def ofLines? : List (List Char) → Option Report
  | passed :: failed :: messages => do
      let passed ← countBefore? "passed" passed
      let failed ← countBefore? "failed" failed
      return ⟨passed, failed, messages.map String.ofList⟩
  | _ => none

/-- Reads the two counts from the first lines of a text and the messages from all others, up to the
last line feed. -/
def ofText? (text : String) : Option Report :=
  ofLines? (splitLines text.toList).dropLast

theorem countBefore?_eq {word : String} {line : List Char} {n : Nat} (hword : IsWord word.toList)
    (hline : line = (toString n).toList ++ ' ' :: word.toList) :
    countBefore? word line = some n := by
  rw [countBefore?, hline, words_append_cons (by decide), (isWord_toString n).words_eq,
    hword.words_eq]
  change (if word.toList = word.toList then Decimal.readDigits (toString n).toList else none) = _
  rw [if_pos rfl, Decimal.readDigits_toString]

/-- A report whose messages are lines is read back from its text. -/
theorem InLines.ofText?_toText (hr : r.InLines) : ofText? r.toText = some r := by
  have hpassed : countBefore? "passed" r.passedLine.toList = some r.passed := by
    refine countBefore?_eq ⟨by simp, by simp [isBlank]⟩ ?_
    rw [passedLine, String.toList_append]
    rfl
  have hfailed : countBefore? "failed" r.failedLine.toList = some r.failed := by
    refine countBefore?_eq ⟨by simp, by simp [isBlank]⟩ ?_
    rw [failedLine, String.toList_append]
    rfl
  rw [ofText?, hr.splitLines_toText, List.dropLast_concat]
  simp [lines, ofLines?, hpassed, hfailed, Function.comp_def]

theorem InLines.toText_inj (hr : r.InLines) (hq : q.InLines) : r.toText = q.toText ↔ r = q := by
  constructor
  · intro htext
    have hread := hr.ofText?_toText
    rw [htext, hq.ofText?_toText] at hread
    exact (Option.some.inj hread).symm
  · rintro rfl
    rfl

end Report

namespace Harness

variable {σ : Type} {h : Harness σ} {test : Case} {s : σ} {reason : String}

/-- Whatever a test fails with is told on one line. -/
theorem FailsWith.isLine (hf : h.FailsWith test s reason) (hpath : IsLine test.path.text)
    (hcontents : FileTree.FailsInLine (h.contents test.path s)) (htools : h.tools.InLines) :
    IsLine reason := by
  obtain ⟨hunread, hstated⟩ := Expectation.ofFile_inLine hpath hcontents
  have hcompiled := htools.compile test.path s hpath
  cases hf with
  | unread hread => exact hunread _ hread
  | uncompiled hread hcompile =>
      rw [hcompile] at hcompiled
      exact hcompiled
  | malformed hread hcompile hfirst hcode =>
      rw [hcompile] at hcompiled
      refine .append (.append ?_ (Signal.isLine_of_first? hcompiled hfirst)) ?_
      · simp [IsLine]
      · simp [IsLine]
  | unfailed hread hcompile hsilent => simp [IsLine]
  | otherCode hread hcompile hfirst hcode hne =>
      have hexpected : IsLine _ := hstated _ hread
      refine .append (.append (.append ?_ hexpected) ?_) (Signal.isLine_of_code? hcode)
      · simp [IsLine]
      · simp [IsLine]
  | refused hread hcompile hfirst hcode =>
      refine .append ?_ (Signal.isLine_of_code? hcode)
      simp [IsLine]
  | unbuilt hread hcompile hsilent hbuild => exact htools.build _ _ (congrArg Prod.fst hbuild)
  | unexecuted hread hcompile hsilent hbuild hexecute =>
      have hexecuted := htools.execute _ _ _ hbuild
      rw [hexecute] at hexecuted
      exact hexecuted
  | mute hread hcompile hsilent hbuild hexecute hlines =>
      have hexpected : IsLine _ := hstated _ hread
      refine .append (.append ?_ hexpected) ?_
      · simp [IsLine]
      · simp [IsLine]
  | otherValue hread hcompile hsilent hbuild hexecute hlast hne =>
      have hexecuted := htools.execute _ _ _ hbuild
      rw [hexecute] at hexecuted
      have hexpected : IsLine _ := hstated _ hread
      have hline := hexecuted.isLine_of_mem (List.mem_of_getLast? hlast)
      refine .append (.append (.append ?_ hexpected) ?_) hline.trimEnd
      · simp [IsLine]
      · simp [IsLine]

/-- One more test leaves the messages on lines. -/
theorem step_inLines {progress : Report × σ} (hpath : IsLine test.path.text)
    (hcontents : ∀ s, FileTree.FailsInLine (h.contents test.path s)) (htools : h.tools.InLines)
    (hprogress : progress.1.InLines) : (h.step progress test).1.InLines := by
  obtain ⟨calls, he⟩ := h.evaluates_evaluate test progress.2
  refine hprogress.record hpath fun reason hreason => ?_
  rcases he.passes_or_failsWith with ⟨hpass, _⟩ | ⟨other, hother, hf⟩
  · cases hpass.symm.trans hreason
  · cases hother.symm.trans hreason
    exact hf.isLine hpath (hcontents _) htools

theorem run_inLines (suites : List Suite) (s : σ)
    (hpaths : ∀ test ∈ Corpus.cases suites, IsLine test.path.text)
    (hcontents : ∀ path s, FileTree.FailsInLine (h.contents path s)) (htools : h.tools.InLines) :
    (h.run suites s).1.InLines :=
  List.foldlRecOn (motive := fun progress => progress.1.InLines) (Corpus.cases suites) h.step
    Report.inLines_empty fun _ hprogress test htest =>
      step_inLines (hpaths test htest) (hcontents test.path) htools hprogress

end Harness

namespace Workplace

variable {σ : Type}

/-- The files are those of a tree, so what is wrong with one of them is told on one line. -/
theorem run_inLines (w : Workplace σ) (settings : Settings) (suites : List Suite) (s : σ)
    (hpaths : ∀ test ∈ Corpus.cases suites, IsLine test.path.text)
    (htools : (w.toolchain settings).InLines) :
    ((w.harness settings).run suites s).1.InLines :=
  Harness.run_inLines suites s hpaths (fun _ _ => FileTree.failsInLine_read _ _ _) htools

/-- No message of a run holds a line feed, whatever is in the files and in the outputs.  So the text
of the report is a line for each count and one for each message, in the order in which the tests
have failed; the report is read back from it, and runs with the same text have the same report. -/
theorem run_readable (w : Workplace σ) (settings : Settings) (suites : List Suite) (s : σ)
    (hpaths : ∀ test ∈ Corpus.cases suites, IsLine test.path.text)
    (htools : (w.toolchain settings).InLines) :
    let h := w.harness settings
    let report := (h.run suites s).1
    (∀ message ∈ report.failures, '\n' ∉ message.toList) ∧
    splitLines report.toText.toList = report.lines.map String.toList ++ [[]] ∧
    report.lines.length = 2 + report.failed ∧
    report.lines = (toString report.passed ++ " passed") :: (toString report.failed ++ " failed") ::
      (((Corpus.cases suites).map fun test => test.path.text).zip
        (h.verdicts (Corpus.cases suites) s)).filterMap
          (fun verdict => Report.messageOf? verdict.1 verdict.2) ∧
    Report.ofText? report.toText = some report ∧
    ∀ {τ : Type} (w' : Workplace τ) (settings' : Settings) (suites' : List Suite) (s' : τ),
      (∀ test ∈ Corpus.cases suites', IsLine test.path.text) →
      (w'.toolchain settings').InLines →
      ((w'.harness settings').run suites' s').1.toText = report.toText →
      ((w'.harness settings').run suites' s').1 = report := by
  intro h report
  have hlines : report.InLines := w.run_inLines settings suites s hpaths htools
  refine ⟨hlines, hlines.splitLines_toText, ?_, ?_, hlines.ofText?_toText, ?_⟩
  · have hbalanced : report.failures.length = report.failed := h.isBalanced_report _ s
    rw [← hbalanced, Nat.add_comm]
    rfl
  · rw [Report.lines, show report = Report.ofVerdicts _ from h.run_fst suites s,
      Report.ofVerdicts_eq]
    rfl
  · intro τ w' settings' suites' s' hpaths' htools' htext
    exact ((w'.run_inLines settings' suites' s' hpaths' htools').toText_inj hlines).mp htext

/-- So the report of a run on a host is read back from what is printed without colours. -/
theorem ofText?_render_of_runHarness {h : Host σ} {tree : σ → FileTree} {directory : Location}
    {isTerminal : Bool} {settings : Settings} {suites : List Suite} {report : Report}
    {s : σ} {y : Session σ} (hhost : h.FailsInLine)
    (hcompiler : IsLine (toString settings.compiler)) (hbuild : IsLine (toString settings.build))
    (hpath : IsLine settings.executable.text)
    (hfound : (ofHost h tree directory isTerminal).found settings (.going s) = .ok suites)
    (hpaths : ∀ test ∈ Corpus.cases suites, IsLine test.path.text)
    (hrun : (ofHost h tree directory isTerminal).runHarness settings (.going s) =
      .returned (.ok report) y) :
    Report.ofText? (report.render .text false) = some report := by
  have hlines := run_inLines (ofHost h tree directory isTerminal) settings suites (.going s) hpaths
    (Host.inLines_toolchain hhost hcompiler hbuild hpath)
  rw [runHarness_of_ok hfound, reply] at hrun
  split at hrun
  · cases hrun
    exact hlines.ofText?_toText
  · cases hrun

theorem inLines_desk (settings : Settings) (raw : String) :
    ((desk (deskScript (outputLines raw))).toolchain settings).InLines where
  compile _ _ _ := ⟨"", by decide⟩
  build _ _ hfault := by cases hfault
  execute _ _ _ _ := ⟨raw, rfl⟩

/-- A report with a failure on the desk. -/
theorem run_readable_desk :
    let h := (desk (deskScript (outputLines " 8\r\n"))).harness .standard
    let report := (h.run [⟨"basic", [deskCase]⟩] ⟨""⟩).1
    report = ⟨0, 1, ["ERROR at /tests/basic/a.sc: expected 7, got 8"]⟩ ∧
      Report.ofText? report.toText = some report := by
  intro h report
  have hreport : report = ⟨0, 1, ["ERROR at /tests/basic/a.sc: expected 7, got 8"]⟩ := by
    have hverdict : Verdict.ofValue "7" (outputLines " 8\r\n") = .fail "expected 7, got 8" := by
      decide
    change (h.run _ _).1 = _
    rw [run_desk, hverdict]
    decide
  have hread := (run_readable (desk (deskScript (outputLines " 8\r\n"))) .standard
    [⟨"basic", [deskCase]⟩] ⟨""⟩ (by simp [Corpus.cases, deskCase, IsLine])
    (inLines_desk ..)).2.2.2.2.1
  exact ⟨hreport, hread⟩

end Workplace

end Conformance
