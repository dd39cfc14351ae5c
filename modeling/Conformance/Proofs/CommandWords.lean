import Conformance.Host
import Conformance.Proofs.Words

/-!
# Command lines as words

A command line is read from a text as its words, and written with one blank between them.  So it is
read back from what is written just if its program and its arguments are words.  The command that
compiles a source has the same words and the path behind them, whatever stands in the path; only a
word with a NUL is not in it, and a command with such a word is not started.
-/

namespace Conformance

namespace CommandLine

open Text

variable {c : CommandLine} {text : String}

/-- The program and the arguments are words. -/
def IsWorded (c : CommandLine) : Prop := ∀ w ∈ c.words, IsWord w.toList

instance : DecidablePred IsWorded := fun c =>
  decidable_of_iff ((c.words.all fun w => decide (IsWord w.toList)) = true) (by simp [IsWorded])

theorem words_inj {d : CommandLine} : c.words = d.words ↔ c = d := by
  obtain ⟨program, args⟩ := c
  obtain ⟨program', args'⟩ := d
  simp [words]

theorem parse_eq_ok_iff :
    parse text = .ok c ↔ c.words = (Text.words text.toList).map String.ofList := by
  unfold parse
  cases (Text.words text.toList).map String.ofList with
  | nil => simp [words]
  | cons program args => simp [← words_inj, words, eq_comm]

/-- What is read from a text are its words. -/
theorem isWorded_of_parse (h : parse text = .ok c) : c.IsWorded := by
  intro w hw
  rw [parse_eq_ok_iff.mp h] at hw
  obtain ⟨chars, hchars, rfl⟩ := List.mem_map.mp hw
  rw [String.toList_ofList]
  exact isWord_of_mem_words hchars

theorem parse_eq_error_iff : parse text = .error .empty ↔ IsGap text.toList := by
  rw [← words_eq_nil_iff, parse]
  cases Text.words text.toList <;> simp

theorem IsWorded.parse_toString (hc : c.IsWorded) : parse (toString c) = .ok c := by
  have hchars : ∀ w ∈ c.words.map String.toList, IsWord w := List.forall_mem_map.mpr hc
  have htext : (toString c).toList = [' '].intercalate (c.words.map String.toList) :=
    String.toList_intercalate
  rw [parse_eq_ok_iff, htext, words_intercalate (by decide) hchars]
  simp [List.map_map, Function.comp_def]

theorem parse_toString_iff : parse (toString c) = .ok c ↔ c.IsWorded :=
  ⟨isWorded_of_parse, IsWorded.parse_toString⟩

theorem parse_cases (text : String) :
    IsGap text.toList ∧ parse text = .error .empty ∨
      ∃ c, ¬ IsGap text.toList ∧ parse text = .ok c := by
  cases h : parse text with
  | error e => exact .inl ⟨parse_eq_error_iff.mp h, rfl⟩
  | ok c =>
      refine .inr ⟨c, fun hgap => ?_, rfl⟩
      rw [parse_eq_error_iff.mpr hgap] at h
      cases h

end CommandLine

/-! ## The command for a source -/

namespace Command

variable {c : Command} {word : String}

/-- The words that stand in the command. -/
def shown (c : Command) : List String := (c.program :: c.args).map shownWord

theorem shownWord_eq_self_iff : shownWord word = word ↔ hasNul word = false := by
  unfold shownWord
  cases hword : hasNul word with
  | false => simp
  | true =>
      refine iff_of_false (fun heq => ?_) (by simp)
      have hreplaced : hasNul "<string-with-nul>" = false := by decide
      rw [if_pos rfl] at heq
      rw [← heq, hreplaced] at hword
      cases hword

theorem shown_eq_iff : c.shown = c.program :: c.args ↔ c.isPassable = true := by
  have hmap : c.shown = c.program :: c.args ↔
      ∀ word ∈ c.program :: c.args, shownWord word = word := by
    rw [shown, ← List.map_inj_left, List.map_id']
  rw [hmap, isPassable, Bool.not_eq_true', List.any_eq_false]
  simp only [shownWord_eq_self_iff, Bool.not_eq_true]

end Command

namespace Host

variable {σ : Type} {g h : Host σ} {limit : Option Span} {label : String} {command : Command}
  {s : σ}

theorem canCount_congr (hclock : g.clock s = h.clock s) : g.canCount limit s = h.canCount limit s := by
  simp only [canCount, hclock]

theorem capture_of_nul (hcommand : command.isPassable = false) :
    h.capture limit label command s = if h.canCount limit s
      then .returned (.error (.invocation label .nulInCommand)) s else .stopped .aborted s := by
  simp [capture, invoke, hcommand]

/-- A command that cannot be started is the fault. -/
theorem capture_of_start_error {cause : IoError} (hcommand : command.isPassable = true)
    (hstart : ∀ until?, h.start command until? s = .error cause) :
    h.capture limit label command s = if h.canCount limit s
      then .returned (.error (.invocation label cause)) s else .stopped .aborted s := by
  simp [capture, invoke, hcommand, hstart]

/-- Of two hosts that show the same time and start this command alike the same is captured. -/
theorem capture_congr (hclock : g.clock s = h.clock s)
    (hstart : ∀ until?, g.start command until? s = h.start command until? s) :
    g.capture limit label command s = h.capture limit label command s := by
  simp only [capture, invoke, canCount_congr hclock, hstart]

/-- To compile a source a host is asked for the time and to start this command, and nothing else. -/
structure CompilesBy (h : Host σ) (settings : Settings) (source : Path) (command : Command)
    (s : σ) : Prop where
  only (g : Host σ) : g.clock s = h.clock s →
    (∀ until?, g.start command until? s = h.start command until? s) →
    g.compile settings source s = h.compile settings source s
  refused (cause : IoError) : (∀ until?, h.start command until? s = .error cause) →
    h.compile settings source s = if h.canCount settings.limit s
      then .returned (.error (.invocation (toString settings.compiler ++ " " ++ source.text) cause)) s
      else .stopped .aborted s

theorem compilesBy_toCommandOn (settings : Settings) (source : Path) (s : σ)
    (hcommand : (settings.compiler.toCommandOn source).isPassable = true) :
    h.CompilesBy settings source (settings.compiler.toCommandOn source) s where
  only _ hclock hstart := capture_congr hclock hstart
  refused _ hstart := capture_of_start_error hcommand hstart

end Host

namespace CommandLine

open Text

theorem shown_toCommandOn (c : CommandLine) (source : Path) : (c.toCommandOn source).shown =
    (c.words ++ [source.text]).map
      (fun w => if '\x00' ∈ w.toList then "<string-with-nul>" else w) := by
  refine List.map_congr_left fun w _ => ?_
  simp only [Command.shownWord, Command.hasNul, List.contains_iff_mem]

/-- A text is no command line just if it is blank.  Otherwise its words are read, and read once more
from what is written for them; of all command lines just those are read back whose program and
arguments are words.  The command for a source has these words and the path as one more, but for each
word with a NUL another one stands in it.  If there is no such word, this is the command that is started;
otherwise nothing is started. -/
theorem parse_written {σ : Type} (h : Host σ) (settings : Settings) (text : String)
    (c : CommandLine) (source : Path) (s : σ) :
    let words := c.words ++ [source.text]
    (parse text = .error .empty ↔ IsGap text.toList) ∧
    (¬ IsGap text.toList → ∃ d, parse text = .ok d ∧ d.IsWorded ∧
      toString d = " ".intercalate ((Text.words text.toList).map String.ofList) ∧
      parse (toString d) = .ok d) ∧
    (parse (toString c) = .ok c ↔ c.IsWorded) ∧
    (c.toCommandOn source).shown =
      words.map (fun w => if '\x00' ∈ w.toList then "<string-with-nul>" else w) ∧
    ((∀ w ∈ words, Command.hasNul w = false) → (c.toCommandOn source).shown = words ∧
      h.CompilesBy (settings.withCompiler c) source ⟨c.program, c.args ++ [source.text]⟩ s) ∧
    ((∃ w ∈ words, Command.hasNul w = true) → (c.toCommandOn source).shown ≠ words ∧
      h.compile (settings.withCompiler c) source s = if h.canCount settings.limit s
        then .returned (.error (.invocation (toString c ++ " " ++ source.text) .nulInCommand)) s
        else .stopped .aborted s) := by
  intro words
  have hnul : (c.toCommandOn source).isPassable = true ↔ ∀ w ∈ words, Command.hasNul w = false := by
    rw [Command.isPassable, Bool.not_eq_true', List.any_eq_false]
    simp only [Bool.not_eq_true]
    rfl
  refine ⟨parse_eq_error_iff, fun hgap => ?_, parse_toString_iff, c.shown_toCommandOn source,
    fun hwords => ?_, fun hwords => ?_⟩
  · obtain ⟨hblank, -⟩ | ⟨d, -, hd⟩ := parse_cases text
    · exact absurd hblank hgap
    · have hworded := isWorded_of_parse hd
      exact ⟨d, hd, hworded, congrArg (" ".intercalate ·) (parse_eq_ok_iff.mp hd),
        hworded.parse_toString⟩
  · exact ⟨Command.shown_eq_iff.mpr (hnul.mpr hwords),
      Host.compilesBy_toCommandOn (settings.withCompiler c) source s (hnul.mpr hwords)⟩
  · have hpassable : (c.toCommandOn source).isPassable ≠ true := by
      intro hpassable
      obtain ⟨w, hw, hnul'⟩ := hwords
      rw [hnul.mp hpassable w hw] at hnul'
      cases hnul'
    exact ⟨fun hshown => hpassable (Command.shown_eq_iff.mp hshown),
      Host.capture_of_nul (Bool.not_eq_true _ ▸ hpassable)⟩

/-- Blanks of any kind stand around the words, and one stands in the path. -/
theorem parse_written_blanks :
    let c : CommandLine := ⟨"cc", ["-O2"]⟩
    parse "\tcc\u2003-O2\n" = .ok c ∧ parse "cc -O2" = .ok c ∧
      (c.toCommandOn ⟨"s/a b.sc"⟩).shown = ["cc", "-O2", "s/a b.sc"] := by
  intro c
  have hread : parse "\tcc\u2003-O2\n" = .ok c := by decide
  obtain ⟨-, hwritten, -, -, hcommand, -⟩ := parse_written (σ := Unit)
    ⟨fun _ _ => .ok (), fun _ _ => true, fun _ _ _ => .error (.os ⟨2⟩), fun _ => 0⟩ Settings.standard
    "\tcc\u2003-O2\n" c ⟨"s/a b.sc"⟩ ()
  obtain ⟨d, hd, -, -, hagain⟩ := hwritten (by decide)
  obtain rfl : c = d := Except.ok.inj (hread.symm.trans hd)
  exact ⟨hread, hagain, (hcommand (by decide)).1⟩

/-- With a NUL in an argument the command for a source has another word in its place. -/
theorem shown_toCommandOn_nul :
    let c : CommandLine := ⟨"cc", ["a\x00b"]⟩
    parse "cc a\x00b" = .ok c ∧
      (c.toCommandOn ⟨"a.sc"⟩).shown = ["cc", "<string-with-nul>", "a.sc"] ∧
      (c.toCommandOn ⟨"a.sc"⟩).shown ≠ c.words ++ ["a.sc"] := by
  decide

end CommandLine

end Conformance
