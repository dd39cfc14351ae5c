import Conformance.Arguments.Request
import Conformance.Proofs.Options

/-!
# What the environment stands in for

A variable of the environment stands for an option in front of all arguments, and the variable of the
directory for two dashes and the directory behind them.  Where the arguments fill a slot themselves its
variable makes no difference, and where neither fills it the standard setting holds.
-/

namespace Conformance

/-! ## What the environment fills -/

/-- The text that the environment has for a slot. -/
def Slot.given? (env : Environment) (slot : Slot) : Option String :=
  slot.variableName?.bind fun name => env.lookup name

namespace Filled

variable {f g : Filled} {env env' : Environment} {slot : Slot} {text : String} {slots : List Slot}

theorem has_eq_isSome (f : Filled) (slot : Slot) : f.has slot = (f.text? slot).isSome := by
  induction f with
  | nil => rfl
  | cons e f ih =>
      obtain ⟨other, text⟩ := e
      by_cases hslot : slot = other
      · simp [has, text?, hslot]
      · have hbeq : (slot == other) = false := by simpa using hslot
        simpa [has, text?, List.lookup_cons, hbeq, Ne.symm hslot] using ih

theorem has_eq_false_iff : f.has slot = false ↔ f.text? slot = none := by
  rw [has_eq_isSome, Option.isSome_eq_false_iff, Option.isNone_iff_eq_none]

theorem text?_append_singleton (f : Filled) (slot other : Slot) (text : String) :
    Filled.text? (f ++ [(slot, text)]) other =
      (f.text? other).or (if other = slot then some text else none) := by
  rw [text?, List.lookup_append, ← text?]
  by_cases hslot : other = slot
  · simp [hslot]
  · have hbeq : (other == slot) = false := by simpa using hslot
    simp [List.lookup_cons, hbeq, hslot]

theorem fill_of_free (hfree : f.text? slot = none) (text : String) :
    f.fill slot text = (slot.check text).map fun _ => f ++ [(slot, text)] := by
  simp only [fill, has_eq_false_iff.mpr hfree, Bool.false_eq_true, if_false]
  cases slot.check text <;> rfl

/-- The slots that are filled from the environment take their texts. -/
def Accepts (env : Environment) (f : Filled) (slots : List Slot) : Prop :=
  ∀ slot ∈ slots, f.text? slot = none → ∀ text, slot.given? env = some text →
    slot.check text = .ok ()

theorem Accepts.tail (h : Accepts env f (slot :: slots)) : Accepts env f slots :=
  fun other hother => h other (List.mem_cons_of_mem slot hother)

theorem Accepts.append (h : Accepts env f slots) (e : Slot × String) :
    Accepts env (f ++ [e]) slots := by
  intro other hother hfree text hgiven
  rw [text?_append_singleton] at hfree
  exact h other hother (Option.or_eq_none_iff.mp hfree).1 text hgiven

theorem slot_cases (env : Environment) (f : Filled) (slot : Slot) :
    (f.text? slot ≠ none ∨ slot.given? env = none) ∨
      f.text? slot = none ∧ ∃ text, slot.given? env = some text := by
  cases f.text? slot <;> cases slot.given? env <;> simp

theorem addEnvironment_skip (h : f.text? slot ≠ none ∨ slot.given? env = none)
    (slots : List Slot) : f.addEnvironment env (slot :: slots) = f.addEnvironment env slots := by
  rw [addEnvironment]
  rcases h with htext | hgiven
  · obtain ⟨text, htext⟩ := Option.ne_none_iff_exists'.mp htext
    have hhas : f.has slot = true := by rw [has_eq_isSome, htext]; rfl
    rw [if_pos hhas]
  · rw [Slot.given?] at hgiven
    simp [hgiven]

theorem addEnvironment_given (htext : f.text? slot = none) (hgiven : slot.given? env = some text)
    (slots : List Slot) : f.addEnvironment env (slot :: slots) =
      (slot.check text).bind fun _ => Filled.addEnvironment env (f ++ [(slot, text)]) slots := by
  have hfree : f.has slot = false := has_eq_false_iff.mpr htext
  rw [Slot.given?] at hgiven
  rw [addEnvironment, hfree]
  simp only [hgiven, Bool.false_eq_true, if_false, fill_of_free htext]
  cases slot.check text <;> rfl

/-- If all texts are taken, the free slots are filled. -/
theorem exists_addEnvironment (h : Accepts env f slots) :
    ∃ g, f.addEnvironment env slots = .ok g ∧
      ∀ other, g.text? other = (f.text? other).or (if other ∈ slots then other.given? env else none) := by
  induction slots generalizing f with
  | nil => exact ⟨f, rfl, by simp⟩
  | cons slot slots ih =>
      rcases slot_cases env f slot with hskip | ⟨htext, text, hgiven⟩
      · obtain ⟨g, hg, hall⟩ := ih h.tail
        refine ⟨g, (addEnvironment_skip hskip slots).trans hg, fun other => ?_⟩
        by_cases hslot : other = slot
        · subst hslot
          rw [hall, if_pos List.mem_cons_self]
          rcases hskip with htext | hgiven
          · obtain ⟨text, htext⟩ := Option.ne_none_iff_exists'.mp htext
            simp [htext]
          · simp [hgiven]
        · simp [hall, hslot]
      · have hcheck : slot.check text = .ok () := h slot List.mem_cons_self htext text hgiven
        obtain ⟨g, hg, hall⟩ := ih (h.tail.append (slot, text))
        refine ⟨g, ?_, fun other => ?_⟩
        · rw [addEnvironment_given htext hgiven, hcheck]
          exact hg
        · by_cases hslot : other = slot
          · simp [hall, text?_append_singleton, hslot, htext, hgiven]
          · simp [hall, text?_append_singleton, hslot]

theorem accepts_of_addEnvironment (h : f.addEnvironment env slots = .ok g) :
    Accepts env f slots := by
  induction slots generalizing f with
  | nil => simp [Accepts]
  | cons slot slots ih =>
      intro other hother hfree text hgiven
      rcases slot_cases env f slot with hskip | ⟨htext, text', hgiven'⟩
      · rw [addEnvironment_skip hskip] at h
        rcases List.mem_cons.mp hother with rfl | hmem
        · rcases hskip with htext | hnone
          · exact absurd hfree htext
          · rw [hnone] at hgiven
            cases hgiven
        · exact ih h other hmem hfree text hgiven
      · rw [addEnvironment_given htext hgiven'] at h
        obtain ⟨_, hcheck, hrest⟩ := bind_eq_ok_iff.mp h
        by_cases hslot : other = slot
        · subst hslot
          rw [hgiven] at hgiven'
          cases hgiven'
          exact hcheck
        · have hmem : other ∈ slots := (List.mem_cons.mp hother).resolve_left hslot
          refine ih hrest other hmem ?_ text hgiven
          simp [text?_append_singleton, hfree, hslot]

/-- A text that its slot does not take is the fault, if it is the only one. -/
theorem addEnvironment_error {e : ArgumentError} (hslot : slot ∈ slots) (hfree : f.text? slot = none)
    (hgiven : slot.given? env = some text) (hcheck : slot.check text = .error e)
    (hothers : Accepts env f (slots.filter (· ≠ slot))) : f.addEnvironment env slots = .error e := by
  induction slots generalizing f with
  | nil => cases hslot
  | cons other slots ih =>
      by_cases hother : other = slot
      · subst hother
        rw [addEnvironment_given hfree hgiven, hcheck]
        rfl
      · have hmem : slot ∈ slots := (List.mem_cons.mp hslot).resolve_left (Ne.symm hother)
        rw [List.filter_cons_of_pos (by simpa using hother)] at hothers
        rcases slot_cases env f other with hskip | ⟨htext, text', hgiven'⟩
        · rw [addEnvironment_skip hskip]
          exact ih hmem hfree hothers.tail
        · rw [addEnvironment_given htext hgiven',
            hothers other List.mem_cons_self htext text' hgiven']
          refine ih hmem ?_ (hothers.tail.append (other, text'))
          simp [text?_append_singleton, hfree, Ne.symm hother]

/-- Only the variables of free slots make a difference. -/
theorem addEnvironment_congr
    (h : ∀ slot ∈ slots, f.text? slot = none → slot.given? env = slot.given? env') :
    f.addEnvironment env slots = f.addEnvironment env' slots := by
  induction slots generalizing f with
  | nil => rfl
  | cons slot slots ih =>
      obtain ⟨hfirst, hrest⟩ := List.forall_mem_cons.mp h
      rcases slot_cases env f slot with hskip | ⟨htext, text, hgiven⟩
      · have hskip' : f.text? slot ≠ none ∨ slot.given? env' = none := by
          rcases hskip with htext | hnone
          · exact .inl htext
          · by_cases htext : f.text? slot = none
            · exact .inr ((hfirst htext).symm.trans hnone)
            · exact .inl htext
        rw [addEnvironment_skip hskip, addEnvironment_skip hskip', ih hrest]
      · rw [addEnvironment_given htext hgiven,
          addEnvironment_given htext ((hfirst htext).symm.trans hgiven)]
        refine congrArg _ (funext fun _ => ih fun other hother hfree => ?_)
        rw [text?_append_singleton] at hfree
        exact hrest other hother (Option.or_eq_none_iff.mp hfree).1

theorem runRequest_congr (h : f.text? = g.text?) : f.runRequest = g.runRequest := by
  simp only [runRequest, corpusRequest, testsDir, extension, commandLine, timeout, h]

theorem isVerbose_congr (h : f.text? = g.text?) : f.isVerbose = g.isVerbose := by
  rw [isVerbose, isVerbose, has_eq_isSome, has_eq_isSome, h]

/-- The request for a run, once the environment has filled what the arguments have left open. -/
def finish (env : Environment) (f : Filled) : Except ArgumentError Request :=
  (f.addEnvironment env Slot.ofRun).map fun g => .run g.isVerbose g.runRequest

theorem finish_eq_ok {r : Request} (h : f.finish env = .ok r) : Accepts env f Slot.ofRun ∧
    ∃ g : Filled, r = .run g.isVerbose g.runRequest ∧ ∀ slot,
      g.text? slot = (f.text? slot).or (if slot ∈ Slot.ofRun then slot.given? env else none) := by
  rw [finish] at h
  cases hadd : f.addEnvironment env Slot.ofRun with
  | error e =>
      rw [hadd] at h
      cases h
  | ok g =>
      rw [hadd] at h
      cases h
      have haccepts := accepts_of_addEnvironment hadd
      obtain ⟨g', hadd', hall⟩ := exists_addEnvironment haccepts
      rw [hadd] at hadd'
      cases hadd'
      exact ⟨haccepts, g, rfl, hall⟩

theorem finish_congr_text? {f' : Filled} (h : Accepts env f Slot.ofRun)
    (h' : Accepts env' f' Slot.ofRun)
    (hall : ∀ slot, (f.text? slot).or (if slot ∈ Slot.ofRun then slot.given? env else none) =
      (f'.text? slot).or (if slot ∈ Slot.ofRun then slot.given? env' else none)) :
    f.finish env = f'.finish env' := by
  obtain ⟨g, hadd, hg⟩ := exists_addEnvironment h
  obtain ⟨g', hadd', hg'⟩ := exists_addEnvironment h'
  have hsame : g.text? = g'.text? := funext fun slot => by rw [hg, hg', hall]
  rw [finish, finish, hadd, hadd', Except.map, Except.map, isVerbose_congr hsame,
    runRequest_congr hsame]

end Filled

namespace Slot

variable {env : Environment} {slot other : Slot} {name w : String}

theorem mem_ofRun (hname : slot.variableName? = some name) : slot ∈ ofRun := by
  cases slot <;> first | decide | cases hname

theorem variableName?_inj (hname : slot.variableName? = some name)
    (hother : other.variableName? = some name) : slot = other := by
  have hall : ∀ a ∈ ofRun, ∀ b ∈ ofRun, a.variableName? = b.variableName? → a = b := by decide
  exact hall _ (mem_ofRun hname) _ (mem_ofRun hother) (hname.trans hother.symm)

theorem given?_cons (hname : slot.variableName? = some name) (env : Environment) (w : String) :
    slot.given? ((name, w) :: env) = some w := by
  rw [given?, hname, Option.bind_some, List.lookup_cons_self]

theorem given?_cons_of_ne (hname : slot.variableName? = some name) (hother : other ≠ slot)
    (env : Environment) (w : String) : other.given? ((name, w) :: env) = other.given? env := by
  rw [given?, given?]
  cases hvariable : other.variableName? with
  | none => rfl
  | some name' =>
      have hne : (name' == name) = false := by
        refine beq_eq_false_iff_ne.mpr fun heq => hother ?_
        exact variableName?_inj (heq ▸ hvariable) hname
      rw [Option.bind_some, Option.bind_some, List.lookup_cons, hne]

end Slot

namespace Filled

variable {f f' : Filled} {env : Environment} {slot : Slot} {name w : String}

/-- A variable fills its slot as anything else that leaves the other slots as they are. -/
theorem finish_cons (hname : slot.variableName? = some name) (hcheck : slot.check w = .ok ())
    (haccepts : Accepts env f Slot.ofRun) (hfree : f.text? slot = none)
    (hfilled : f'.text? slot = some w) (hothers : ∀ other, other ≠ slot → f'.text? other = f.text? other) :
    f.finish ((name, w) :: env) = f'.finish env := by
  refine finish_congr_text? ?_ ?_ fun other => ?_
  · intro other hmem hother text hgiven
    by_cases hslot : other = slot
    · subst hslot
      rw [Slot.given?_cons hname] at hgiven
      cases hgiven
      exact hcheck
    · rw [Slot.given?_cons_of_ne hname hslot] at hgiven
      exact haccepts other hmem hother text hgiven
  · intro other hmem hother text hgiven
    have hslot : other ≠ slot := by
      rintro rfl
      rw [hfilled] at hother
      cases hother
    rw [hothers other hslot] at hother
    exact haccepts other hmem hother text hgiven
  · by_cases hslot : other = slot
    · subst hslot
      simp [hfree, hfilled, Slot.given?_cons hname, Slot.mem_ofRun hname]
    · rw [hothers other hslot, Slot.given?_cons_of_ne hname hslot]

theorem finish_cons_error {e : ArgumentError} (hname : slot.variableName? = some name)
    (hcheck : slot.check w = .error e) (haccepts : Accepts env f Slot.ofRun)
    (hfree : f.text? slot = none) : f.finish ((name, w) :: env) = .error e := by
  have hothers : Accepts ((name, w) :: env) f (Slot.ofRun.filter (· ≠ slot)) := by
    intro other hmem hother text hgiven
    obtain ⟨hmem, hslot⟩ := List.mem_filter.mp hmem
    rw [Slot.given?_cons_of_ne hname (by simpa using hslot)] at hgiven
    exact haccepts other hmem hother text hgiven
  rw [finish, addEnvironment_error (Slot.mem_ofRun hname) hfree (Slot.given?_cons hname env w) hcheck
    hothers]
  rfl

/-- The variable of a slot that is filled makes no difference. -/
theorem finish_cons_of_text? (hname : slot.variableName? = some name)
    (hfilled : f.text? slot ≠ none) : f.finish ((name, w) :: env) = f.finish env := by
  have hadd : f.addEnvironment ((name, w) :: env) Slot.ofRun = f.addEnvironment env Slot.ofRun := by
    refine addEnvironment_congr fun other _ hfree => ?_
    refine Slot.given?_cons_of_ne hname ?_ env w
    rintro rfl
    exact hfilled hfree
  rw [finish, finish, hadd]

end Filled

/-! ## Requests -/

namespace Request

variable {env : Environment} {args : List String} {verbose : Bool} {r : RunRequest} {f : Filled}

theorem parseRun_eq (env : Environment) (args : List String) :
    parseRun env args = (Scan.all .run args).bind fun f => f.finish env := by
  rw [parseRun]
  cases Scan.all .run args with
  | error e => rfl
  | ok f =>
      change (f.addEnvironment env Slot.ofRun).bind _ = _
      rw [Except.bind, Filled.finish]
      cases f.addEnvironment env Slot.ofRun <;> rfl

theorem parse_eq_parseRun (hlist : args.head? ≠ some "list") (hhelp : args.head? ≠ some "help")
    (env : Environment) : parse env args = parseRun env args := by
  unfold parse
  split
  · simp at hlist
  · simp at hhelp
  · rfl

theorem parseList_ne_run : parseList env args ≠ .ok (.run verbose r) := by
  intro h
  obtain ⟨_, -, h⟩ := bind_eq_ok_iff.mp h
  obtain ⟨_, -, h⟩ := bind_eq_ok_iff.mp h
  obtain ⟨_, -, h⟩ := bind_eq_ok_iff.mp h
  cases h

/-- What is accepted as a run does not begin with another word for what to do. -/
theorem head?_ne_of_parse (h : parse env args = .ok (.run verbose r)) :
    args.head? ≠ some "list" ∧ args.head? ≠ some "help" := by
  constructor
  · intro hhead
    obtain ⟨rest, rfl⟩ := List.head?_eq_some_iff.mp hhead
    exact parseList_ne_run h
  · intro hhead
    obtain ⟨rest, rfl⟩ := List.head?_eq_some_iff.mp hhead
    cases h

/-- Where neither the arguments nor the environment say anything, the standard settings hold. -/
structure IsStandardWhereOpen (env : Environment) (args : List String) (r : RunRequest) : Prop where
  testsDir : env.lookup "SCTEST_DIR" = none → fillsPosition args = false →
    r.corpus.testsDir = Settings.standard.testsDir
  extension : env.lookup "SCTEST_EXTENSION" = none → ¬ Mentions "extension" args →
    r.corpus.extension = Settings.standard.extension
  compiler : env.lookup "SCTEST_COMPILER" = none → ¬ Mentions "compiler" args →
    r.compiler = Settings.standard.compiler
  build : env.lookup "SCTEST_BUILD" = none → ¬ Mentions "build" args →
    r.build = Settings.standard.build
  executable : env.lookup "SCTEST_EXECUTABLE" = none → ¬ Mentions "executable" args →
    r.executable = Settings.standard.executable
  timeout : env.lookup "SCTEST_TIMEOUT" = none → ¬ Mentions "timeout" args →
    r.timeout = Settings.standardSeconds
  color : ¬ Mentions "color" args → r.color = .auto
  format : ¬ Mentions "format" args → r.format = .text

section

variable (hall : Scan.all .run args = .ok f)
include hall

theorem text?_eq_none_iff {word : String} {slot : Slot}
    (hword : Slot.ofOption? word.toList = some slot) :
    f.text? slot = none ↔ ¬ Mentions word args := by
  have hreads := (Scan.all_eq_ok_iff.mp hall).1
  rw [← hreads.has_iff_mentions hword, Bool.not_eq_true, Filled.has_eq_false_iff]

theorem isStandardWhereOpen {g : Filled} (hg : ∀ slot, g.text? slot =
    (f.text? slot).or (if slot ∈ Slot.ofRun then slot.given? env else none)) :
    IsStandardWhereOpen env args g.runRequest := by
  have hreads := (Scan.all_eq_ok_iff.mp hall).1
  have hoption : ∀ {word : String} {slot : Slot} {name : String},
      Slot.ofOption? word.toList = some slot → slot.variableName? = some name →
        env.lookup name = none → ¬ Mentions word args → g.text? slot = none := by
    intro word slot name hword hname hnone hmentions
    simp [hg, (text?_eq_none_iff hall hword).mpr hmentions, Slot.given?, hname, hnone]
  have hother : ∀ {word : String} {slot : Slot}, Slot.ofOption? word.toList = some slot →
      slot ∉ Slot.ofRun → ¬ Mentions word args → g.text? slot = none := by
    intro word slot hword hmem hmentions
    simp [hg, (text?_eq_none_iff hall hword).mpr hmentions, hmem]
  constructor
  · intro hnone hposition
    have hfree : f.text? .testsDir = none := by
      rw [← Filled.has_eq_false_iff, hreads.has_testsDir, hposition]
    have htext : g.text? .testsDir = none := by simp [hg, hfree, Slot.given?, Slot.variableName?, hnone]
    simp [Filled.runRequest, Filled.corpusRequest, Filled.testsDir, htext]
  · intro hnone hmentions
    have htext : g.text? .extension = none := hoption rfl rfl hnone hmentions
    simp [Filled.runRequest, Filled.corpusRequest, Filled.extension, htext]
  · intro hnone hmentions
    have htext : g.text? .compiler = none := hoption rfl rfl hnone hmentions
    simp [Filled.runRequest, Filled.commandLine, htext]
  · intro hnone hmentions
    have htext : g.text? .build = none := hoption rfl rfl hnone hmentions
    simp [Filled.runRequest, Filled.commandLine, htext]
  · intro hnone hmentions
    have htext : g.text? .executable = none := hoption rfl rfl hnone hmentions
    simp [Filled.runRequest, htext]
  · intro hnone hmentions
    have htext : g.text? .timeout = none := hoption rfl rfl hnone hmentions
    simp [Filled.runRequest, Filled.timeout, htext]
  · intro hmentions
    have htext : g.text? .color = none := hother rfl (by decide) hmentions
    simp [Filled.runRequest, htext]
  · intro hmentions
    have htext : g.text? .format = none := hother rfl (by decide) hmentions
    simp [Filled.runRequest, htext]

/-- An option in front of accepted arguments is checked as its variable is. -/
theorem all_attached {word : String} {slot : Slot} (hword : Slot.ofOption? word.toList = some slot)
    (hfree : f.text? slot = none) (w : String) :
    Scan.all .run (("--" ++ word ++ "=" ++ w) :: args) =
      (slot.check w).map fun _ => (slot, w) :: f := by
  obtain ⟨hreads, hnodup, hchecks⟩ := Scan.all_eq_ok_iff.mp hall
  cases hcheck : slot.check w with
  | error e =>
      have hfirst : Scan.start.read .run ("--" ++ word ++ "=" ++ w) = .error e := by
        have hfill : Filled.fill [] slot w = .error e := by
          rw [Filled.fill_of_free rfl, hcheck]
          rfl
        rw [Scan.read_attached rfl hword rfl]
        change (Filled.fill [] slot w).bind _ = _
        rw [hfill]
        rfl
      rw [Scan.all_eq, List.foldlM_cons, hfirst]
      rfl
  | ok =>
      have hnew : slot ∉ f.map Prod.fst := by
        intro hmem
        obtain ⟨e, he, rfl⟩ := List.mem_map.mp hmem
        have hhas : f.has e.1 = true := List.any_eq_true.mpr ⟨e, he, by simp⟩
        rw [Filled.has_eq_false_iff.mpr hfree] at hhas
        cases hhas
      refine Scan.all_eq_ok_iff.mpr ⟨.group (.attached w hword) hreads, ?_, ?_⟩
      · exact List.nodup_cons.mpr ⟨hnew, hnodup⟩
      · exact List.forall_mem_cons.mpr ⟨⟨rfl, hcheck⟩, hchecks⟩

/-- A text behind two dashes and accepted arguments is checked as the variable of the directory. -/
theorem all_concat_last (hdashes : "--" ∉ args) (hfree : f.text? .testsDir = none) (w : String) :
    Scan.all .run (args ++ ["--", w]) =
      (Slot.testsDir.check w).map fun _ => f ++ [(.testsDir, w)] := by
  obtain ⟨hreads, -, hchecks⟩ := Scan.all_eq_ok_iff.mp hall
  obtain ⟨s, hread, houtcome⟩ := Scan.all_eq_ok_iff_outcome.mp hall
  have hready : s.Ready := Scan.ready_of_reads hreads hdashes Scan.ready_start
    (fun e he => (hchecks e he).1) hread
  have hcomplete : ∀ slot, ({ s with positionsOnly := true } : Scan).pending ≠ some (slot, none) :=
    hready.complete
  have hposition : Scan.position .run { s with positionsOnly := true } w =
      .ok ⟨f, some (.testsDir, some w), true⟩ := by
    refine (Scan.position_eq_ok_iff hcomplete).mpr ⟨f, ?_, Filled.has_eq_false_iff.mpr hfree, rfl⟩
    rw [Scan.outcome_positionsOnly, houtcome]
  have hlast : ["--", w].foldlM (Scan.read .run) s = .ok ⟨f, some (.testsDir, some w), true⟩ := by
    rw [Scan.foldlM_pair, Scan.read_separator hready.options]
    exact (Scan.read_positionsOnly rfl w).trans hposition
  have hall' : (args ++ ["--", w]).foldlM (Scan.read .run) Scan.start =
      .ok ⟨f, some (.testsDir, some w), true⟩ :=
    Scan.foldlM_append_eq_ok_iff.mpr ⟨s, hread, hlast⟩
  rw [Scan.all_eq, hall', ← Filled.fill_of_free hfree]
  exact Scan.outcome_pending f .testsDir w true

end

/-- Arguments that fill one more slot, if it takes the text, do what its variable does. -/
theorem finish_cons_eq_parseRun {f f' : Filled} {slot : Slot} {name w : String}
    (hname : slot.variableName? = some name) (haccepts : f.Accepts env Slot.ofRun)
    (hfree : f.text? slot = none)
    (hall : Scan.all .run args = (slot.check w).map fun _ => f') (hfilled : f'.text? slot = some w)
    (hothers : ∀ other, other ≠ slot → f'.text? other = f.text? other) :
    f.finish ((name, w) :: env) = parseRun env args := by
  rw [parseRun_eq, hall]
  cases hcheck : slot.check w with
  | error e => exact Filled.finish_cons_error hname hcheck haccepts hfree
  | ok => exact Filled.finish_cons hname hcheck haccepts hfree hfilled hothers

/-- For arguments that are accepted as a run, a variable stands for its option in front of them, unless
the option is among them: then the variable makes no difference, whatever it holds.  The variable of
the directory stands for two dashes and the directory behind them.  What neither of them gives is as in
the standard settings. -/
theorem parse_environment (h : parse env args = .ok (.run verbose r)) :
    (∀ word slot name, Slot.ofOption? word.toList = some slot → slot.variableName? = some name →
      ∀ w,
        (¬ Mentions word args → parse ((name, w) :: env) args =
          parse env (("--" ++ word ++ "=" ++ w) :: args)) ∧
        (Mentions word args → parse ((name, w) :: env) args = .ok (.run verbose r))) ∧
    (fillsPosition args = false → "--" ∉ args → ∀ w,
      parse (("SCTEST_DIR", w) :: env) args = parse env (args ++ ["--", w])) ∧
    IsStandardWhereOpen env args r := by
  obtain ⟨hlist, hhelp⟩ := head?_ne_of_parse h
  have hparse : ∀ env, parse env args = parseRun env args := parse_eq_parseRun hlist hhelp
  rw [hparse, parseRun_eq] at h
  obtain ⟨f, hall, hfinish⟩ := bind_eq_ok_iff.mp h
  obtain ⟨haccepts, g, hrequest, hg⟩ := Filled.finish_eq_ok hfinish
  refine ⟨fun word slot name hword hname w => ⟨fun hmentions => ?_, fun hmentions => ?_⟩,
    fun hposition hdashes w => ?_, ?_⟩
  · have hfree := (text?_eq_none_iff hall hword).mpr hmentions
    have hoption : parse env (("--" ++ word ++ "=" ++ w) :: args) =
        parseRun env (("--" ++ word ++ "=" ++ w) :: args) := by
      refine parse_eq_parseRun ?_ ?_ env
      · simp [← String.toList_inj]
      · simp [← String.toList_inj]
    rw [hparse, parseRun_eq, hall, hoption]
    refine finish_cons_eq_parseRun hname haccepts hfree (all_attached hall hword hfree w)
      List.lookup_cons_self fun other hother => ?_
    have hbeq : (other == slot) = false := by simpa using hother
    rw [Filled.text?, List.lookup_cons, hbeq]
    rfl
  · have hfilled : f.text? slot ≠ none := fun hfree =>
      (text?_eq_none_iff hall hword).mp hfree hmentions
    rw [hparse, parseRun_eq, hall, ← hfinish]
    exact Filled.finish_cons_of_text? hname hfilled
  · have hfree : f.text? .testsDir = none := by
      rw [← Filled.has_eq_false_iff, (Scan.all_eq_ok_iff.mp hall).1.has_testsDir, hposition]
    have hlast : parse env (args ++ ["--", w]) = parseRun env (args ++ ["--", w]) := by
      cases args with
      | nil => rfl
      | cons arg args => exact parse_eq_parseRun (by simpa using hlist) (by simpa using hhelp) env
    rw [hparse, parseRun_eq, hall, hlast]
    refine finish_cons_eq_parseRun rfl haccepts hfree (all_concat_last hall hdashes hfree w) ?_
      fun other hother => ?_
    · simp [Filled.text?_append_singleton, hfree]
    · simp [Filled.text?_append_singleton, hother]
  · cases hrequest
    exact isStandardWhereOpen hall hg

/-- The limit is left open, and the extension is given twice over. -/
theorem parse_environment_limit :
    let env : Environment := [("SCTEST_EXTENSION", "c")]
    let args := ["-v", "--extension", "txt"]
    let r : RunRequest := ⟨⟨⟨"tests"⟩, "txt"⟩, ⟨"cargo", ["run"]⟩, ⟨"./build.sh", []⟩, ⟨"./a.out"⟩, 60,
      .auto, .text⟩
    parse env args = .ok (.run true r) ∧
      parse (("SCTEST_TIMEOUT", "+7") :: env) args = .ok (.run true { r with timeout := 7 }) ∧
      parse (("SCTEST_TIMEOUT", "") :: env) args = .error .valueValidation ∧
      (∀ w, parse (("SCTEST_EXTENSION", w) :: env) args = .ok (.run true r)) ∧
      parse (("SCTEST_DIR", "-d") :: env) args =
        .ok (.run true { r with corpus := ⟨⟨"-d"⟩, "txt"⟩ }) := by
  intro env args r
  have haccepted : parse env args = .ok (.run true r) := rfl
  obtain ⟨hoptions, hlast, -⟩ := parse_environment haccepted
  have htimeout : ¬ Mentions "timeout" args := by decide
  have hextension : Mentions "extension" args := by decide
  refine ⟨haccepted, ?_, ?_, fun w => ?_, ?_⟩
  · rw [(hoptions "timeout" .timeout _ rfl rfl "+7").1 htimeout]
    rfl
  · rw [(hoptions "timeout" .timeout _ rfl rfl "").1 htimeout]
    rfl
  · exact (hoptions "extension" .extension _ rfl rfl w).2 hextension
  · rw [hlast (by decide) (by decide)]
    rfl

end Request

end Conformance
