import Conformance.Proofs.CommandWords
import Conformance.Proofs.Fallback
import Conformance.Proofs.Line

/-!
# Writing a request

Every request for a run can be written as arguments: each option with its value attached, then the
flag if it is wanted, then two dashes and the directory.  What is attached to an option or stands
behind two dashes may look like anything.  All slots that a variable could fill are filled then, so
the environment makes no difference, not even where it holds texts that the slots do not take.
-/

namespace Conformance

/-! ## The texts of single settings -/

namespace ColorMode

/-- The word for a mode. -/
def word : ColorMode → String
  | auto => "auto"
  | always => "always"
  | never => "never"

theorem parse?_word (mode : ColorMode) : parse? mode.word = some mode := by
  cases mode <;> rfl

end ColorMode

namespace ReportFormat

/-- The word for a format. -/
def word : ReportFormat → String
  | text => "text"
  | json => "json"

theorem parse?_word (format : ReportFormat) : parse? format.word = some format := by
  cases format <;> rfl

end ReportFormat

namespace Settings

/-- A text is an extension with dots in front. -/
structure IsDotted (text extension : String) : Prop where
  dots : ∃ n, text.toList = List.replicate n '.' ++ extension.toList
  undotted : extension.toList.head? ≠ some '.'

theorem isDotted_normalExtension (text : String) : IsDotted text (normalExtension text) where
  dots := by
    refine ⟨(text.toList.takeWhile (· == '.')).length, ?_⟩
    have hdots : text.toList.takeWhile (· == '.') =
        List.replicate (text.toList.takeWhile (· == '.')).length '.' :=
      List.eq_replicate_iff.mpr ⟨rfl, fun c hc => by simpa using List.mem_takeWhile_imp hc⟩
    rw [← hdots, normalExtension, String.toList_ofList, List.takeWhile_append_dropWhile]
  undotted := by
    intro hhead
    have hnot := List.head?_dropWhile_not (· == '.') text.toList
    rw [normalExtension, String.toList_ofList] at hhead
    rw [hhead] at hnot
    simp at hnot

/-- The settings are those of a request, in their normal form. -/
structure Follows (s : Settings) (r : RunRequest) : Prop where
  testsDir : s.testsDir = r.corpus.testsDir
  extension : IsDotted r.corpus.extension s.extension
  compiler : s.compiler = r.compiler
  build : s.build = r.build
  executable : s.executable = r.executable
  limit : s.limit = if r.timeout = 0 then none else some (Span.ofSeconds r.timeout)

end Settings

theorem RunRequest.follows_settings (r : RunRequest) : r.settings.Follows r where
  testsDir := rfl
  extension := Settings.isDotted_normalExtension r.corpus.extension
  compiler := rfl
  build := rfl
  executable := rfl
  limit := rfl

/-! ## Written options -/

/-- Options with their values attached fill their slots. -/
theorem Reads.attached {options : List (String × Slot)}
    (hoptions : ∀ p ∈ options, Slot.ofOption? p.1.toList = some p.2) (text : Slot → String)
    {args : List String} {f : Filled} (h : Reads args f) :
    Reads (options.map (fun p => "--" ++ p.1 ++ "=" ++ text p.2) ++ args)
      (options.map (fun p => (p.2, text p.2)) ++ f) := by
  induction options with
  | nil => exact h
  | cons p options ih =>
      obtain ⟨hfirst, hrest⟩ := List.forall_mem_cons.mp hoptions
      exact .group (g := ["--" ++ p.1 ++ "=" ++ text p.2]) (.attached (text p.2) hfirst) (ih hrest)

/-- Where no slot is open the environment makes no difference. -/
theorem Filled.addEnvironment_of_filled {f : Filled} {slots : List Slot}
    (h : ∀ slot ∈ slots, f.text? slot ≠ none) (env : Environment) :
    f.addEnvironment env slots = .ok f := by
  induction slots with
  | nil => rfl
  | cons slot slots ih =>
      obtain ⟨hfirst, hrest⟩ := List.forall_mem_cons.mp h
      rw [addEnvironment_skip (.inl hfirst), ih hrest]

namespace RunRequest

variable {r : RunRequest} {verbose : Bool}

/-- The text of a setting, as its slot takes it. -/
def text (r : RunRequest) : Slot → String
  | .testsDir => r.corpus.testsDir.text
  | .extension => r.corpus.extension
  | .compiler => toString r.compiler
  | .build => toString r.build
  | .executable => r.executable.text
  | .timeout => toString r.timeout
  | .color => r.color.word
  | .format => r.format.word
  | .verbose => ""

/-- The arguments for a request. -/
def arguments (verbose : Bool) (r : RunRequest) : List String :=
  Slot.options.map (fun p => "--" ++ p.1 ++ "=" ++ r.text p.2) ++
    (if verbose then ["-v"] else []) ++ ["--", r.corpus.testsDir.text]

/-- The slots that these arguments fill. -/
def filled (verbose : Bool) (r : RunRequest) : Filled :=
  Slot.options.map (fun p => (p.2, r.text p.2)) ++
    (if verbose then [(.verbose, "")] else []) ++ [(.testsDir, r.corpus.testsDir.text)]

/-- The paths name something, the commands are made of words, and the limit has at most 64 bits. -/
structure IsWritable (r : RunRequest) : Prop where
  testsDir : r.corpus.testsDir.text ≠ ""
  compiler : r.compiler.IsWorded
  build : r.build.IsWorded
  executable : r.executable.text ≠ ""
  timeout : r.timeout < 2 ^ 64

theorem reads_arguments (verbose : Bool) (r : RunRequest) :
    Reads (r.arguments verbose) (r.filled verbose) := by
  have hflag : Reads ((if verbose then ["-v"] else []) ++ ["--", r.corpus.testsDir.text])
      ((if verbose then [(.verbose, "")] else []) ++ [(.testsDir, r.corpus.testsDir.text)]) := by
    cases verbose with
    | false => exact .last _
    | true => exact .group .letter (.last _)
  rw [arguments, filled, List.append_assoc, List.append_assoc]
  exact Reads.attached Slot.ofOption?_of_mem_options r.text hflag

theorem mem_filled {e : Slot × String} (he : e ∈ r.filled verbose) : e.2 = r.text e.1 := by
  rw [filled, List.mem_append, List.mem_append, List.mem_singleton] at he
  rcases he with (hoption | hflag) | rfl
  · obtain ⟨p, -, rfl⟩ := List.mem_map.mp hoption
    rfl
  · cases verbose with
    | false => cases hflag
    | true =>
        obtain rfl := List.mem_singleton.mp hflag
        rfl
  · rfl

theorem nodup_filled (verbose : Bool) (r : RunRequest) :
    ((r.filled verbose).map Prod.fst).Nodup := by
  cases verbose with
  | false =>
      change [Slot.extension, .compiler, .build, .executable, .timeout, .color, .format,
        .testsDir].Nodup
      decide
  | true =>
      change [Slot.extension, .compiler, .build, .executable, .timeout, .color, .format, .verbose,
        .testsDir].Nodup
      decide

theorem text?_filled (verbose : Bool) (r : RunRequest) {slot : Slot} (hslot : slot ≠ .verbose) :
    (r.filled verbose).text? slot = some (r.text slot) := by
  cases verbose <;> cases slot <;> first | rfl | exact absurd rfl hslot

theorem isVerbose_filled (verbose : Bool) (r : RunRequest) :
    (r.filled verbose).isVerbose = verbose := by
  cases verbose <;> rfl

/-- Each slot takes the text of its setting. -/
theorem IsWritable.check_text (h : r.IsWritable) (slot : Slot) :
    slot.check (r.text slot) = .ok () := by
  cases slot with
  | testsDir => simp [Slot.check, text, h.testsDir]
  | compiler => simp [Slot.check, text, h.compiler.parse_toString]
  | build => simp [Slot.check, text, h.build.parse_toString]
  | executable => simp [Slot.check, text, h.executable]
  | timeout => simp only [Slot.check, text, Text.Decimal.readWord64_toString h.timeout]
  | color => simp [Slot.check, text, ColorMode.parse?_word]
  | format => simp [Slot.check, text, ReportFormat.parse?_word]
  | extension | verbose => rfl

/-- The settings are read back from their texts. -/
theorem IsWritable.runRequest_eq (h : r.IsWritable) {f : Filled}
    (hf : ∀ slot, slot ≠ .verbose → f.text? slot = some (r.text slot)) : f.runRequest = r := by
  have hcompiler : f.commandLine .compiler Settings.standard.compiler = r.compiler := by
    rw [Filled.commandLine, hf _ (by decide), Option.bind_some, text, h.compiler.parse_toString]
    rfl
  have hbuild : f.commandLine .build Settings.standard.build = r.build := by
    rw [Filled.commandLine, hf _ (by decide), Option.bind_some, text, h.build.parse_toString]
    rfl
  have htimeout : f.timeout = r.timeout := by
    rw [Filled.timeout, hf _ (by decide), Option.bind_some, text,
      Text.Decimal.readWord64_toString h.timeout]
    rfl
  simp [Filled.runRequest, Filled.corpusRequest, Filled.testsDir, Filled.extension, hcompiler,
    hbuild, htimeout, hf, text, ColorMode.parse?_word, ReportFormat.parse?_word]

end RunRequest

namespace Request

open RunRequest

/-- What is written for a request is accepted as this request in every environment, and the settings
of the run are those of the request in their normal form. -/
theorem parse_arguments (env : Environment) (verbose : Bool) {r : RunRequest} (h : r.IsWritable) :
    parse env (r.arguments verbose) = .ok (.run verbose r) ∧ r.settings.Follows r := by
  refine ⟨?_, r.follows_settings⟩
  have hall : Scan.all .run (r.arguments verbose) = .ok (r.filled verbose) := by
    refine Scan.all_eq_ok_iff.mpr
      ⟨reads_arguments verbose r, nodup_filled verbose r, fun e he => ?_⟩
    rw [mem_filled he]
    exact ⟨rfl, h.check_text e.1⟩
  have hopen : ∀ slot ∈ Slot.ofRun, (r.filled verbose).text? slot ≠ none := by
    intro slot hslot
    have hne : slot ≠ .verbose := by
      rintro rfl
      exact absurd hslot (by decide)
    simp [text?_filled verbose r hne]
  have hhead : ∀ word : String, word.toList.head? ≠ some '-' →
      (r.arguments verbose).head? ≠ some word := by
    rintro word hword hhead
    obtain rfl := Option.some.inj hhead
    simp at hword
  rw [parse_eq_parseRun (hhead "list" (by decide)) (hhead "help" (by decide)), parseRun_eq, hall]
  change (r.filled verbose).finish env = _
  rw [Filled.finish, Filled.addEnvironment_of_filled hopen, Except.map, isVerbose_filled,
    h.runRequest_eq fun slot hslot => text?_filled verbose r hslot]

/-- The directory is a word for what to do, the extension looks like an option, a value has an
equals sign and the limit is the largest, whatever the environment holds. -/
theorem parse_arguments_list :
    let r : RunRequest := ⟨⟨⟨"list"⟩, "--sc"⟩, ⟨"cc", ["-O=2"]⟩, ⟨"make", []⟩, ⟨"-x"⟩,
      18446744073709551615, .never, .json⟩
    let args := ["--extension=--sc", "--compiler=cc -O=2", "--build=make", "--executable=-x",
      "--timeout=18446744073709551615", "--color=never", "--format=json", "-v", "--", "list"]
    r.arguments true = args ∧
      parse [("SCTEST_TIMEOUT", "soon"), ("SCTEST_DIR", "")] args = .ok (.run true r) ∧
      r.settings.Follows r := by
  intro r args
  have hwritten : r.arguments true = args := by decide
  have hwritable : r.IsWritable :=
    ⟨by decide, by decide, by decide, by decide, by decide⟩
  exact ⟨hwritten, hwritten ▸ parse_arguments _ true hwritable⟩

end Request

end Conformance
