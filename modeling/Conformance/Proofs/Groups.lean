import Conformance.Proofs.Arguments

/-!
# Groups of arguments

An argument list is accepted if it falls into groups, each of which fills one slot, so that no slot is
filled twice and each takes its text.  Behind two dashes alone one more text may come, which is the
position whatever it looks like.  The reader that keeps the value of the last group pending accepts
these lists and no others, and fills the slots in the order of the groups.
-/

namespace Conformance

/-- Arguments that stand together and fill one slot with a text. -/
inductive Group : List String → Slot × String → Prop
  | letter : Group ["-v"] (.verbose, "")
  | flag : Group ["--verbose"] (.verbose, "")
  | attached {word : String} {slot : Slot} (value : String) :
      Slot.ofOption? word.toList = some slot → Group ["--" ++ word ++ "=" ++ value] (slot, value)
  | separate {word value : String} {slot : Slot} :
      Slot.ofOption? word.toList = some slot → IsPlain value →
        Group ["--" ++ word, value] (slot, value)
  | position {text : String} : IsPlain text → Group [text] (.testsDir, text)

/-- A list of arguments falls into groups, which fill slots one after the other. -/
inductive Reads : List String → Filled → Prop
  | nil : Reads [] []
  | separator : Reads ["--"] []
  | last (text : String) : Reads ["--", text] [(.testsDir, text)]
  | group {g args : List String} {e : Slot × String} {f : Filled} :
      Group g e → Reads args f → Reads (g ++ args) (e :: f)

namespace Scan

variable {scope : Scope} {s s' : Scan} {slot : Slot} {word text : String} {f f' : Filled}

/-- What an argument has done in front of two dashes alone. -/
theorem read_cases {arg : String} (hs : s.positionsOnly = false) (h : s.read scope arg = .ok s') :
    (arg = "--" ∧ s' = { s with positionsOnly := true }) ∨
    (∃ e, Group [arg] e ∧ scope.admits e.1 = true ∧ s.fill e.1 e.2 = .ok s') ∨
    (∃ word slot s₀, arg = "--" ++ word ∧ Slot.ofOption? word.toList = some slot ∧
      scope.admits slot = true ∧ s.settle = .ok s₀ ∧ s' = { s₀ with pending := some (slot, none) }) ∨
    (IsPlain arg ∧ s.plain scope arg = .ok s') := by
  have hdashes : ∀ {name : List Char}, arg.toList = '-' :: '-' :: name →
      arg = "--" ++ String.ofList name := by
    intro name harg
    simp [← String.toList_inj, harg]
  by_cases hplain : IsPlain arg
  · rw [read_plain hs hplain] at h
    exact .inr (.inr (.inr ⟨hplain, h⟩))
  · obtain ⟨halone, hdash⟩ := not_or.mp hplain
    obtain ⟨rest, harg⟩ : ∃ rest, arg.toList = '-' :: rest := by
      simpa [List.head?_eq_some_iff] using hdash
    cases rest with
    | nil => exact absurd (String.toList_inj.mp harg) halone
    | cons c rest =>
        by_cases hc : c = '-'
        · subst hc
          by_cases hrest : rest = []
          · subst hrest
            obtain rfl : arg = "--" := String.toList_inj.mp harg
            rw [read_separator hs] at h
            cases h
            exact .inl ⟨rfl, rfl⟩
          · rw [read_named hs harg hrest] at h
            rcases named_cases h with ⟨rfl, hfill⟩ | ⟨slot, front, value, rfl, hoption, hadmits, hfill⟩ |
              ⟨slot, s₀, hoption, hadmits, hsettle, hs'⟩
            · obtain rfl : arg = "--verbose" := hdashes harg
              exact .inr (.inl ⟨_, .flag, admits_verbose scope, hfill⟩)
            · obtain rfl : arg = "--" ++ String.ofList front ++ "=" ++ String.ofList value := by
                simp [← String.toList_inj, harg]
              refine .inr (.inl ⟨_, .attached _ ?_, hadmits, hfill⟩)
              rwa [String.toList_ofList]
            · refine .inr (.inr (.inl ⟨_, slot, s₀, hdashes harg, ?_, hadmits, hsettle, hs'⟩))
              rwa [String.toList_ofList]
        · have hletters : s.read scope arg = s.letters scope (c :: rest) := by
            rw [read, if_neg (by simp [hs]), harg]
            split <;> simp_all
          rw [hletters] at h
          obtain ⟨rfl, rfl, hfill⟩ := letters_cases h
          obtain rfl : arg = "-v" := String.toList_inj.mp harg
          exact .inr (.inl ⟨_, .letter, admits_verbose scope, hfill⟩)

/-! ## Single groups -/

/-- What comes before is settled, and the slot is filled, faults included. -/
theorem fill_bind_outcome (s : Scan) (slot : Slot) (text : String) :
    (s.fill slot text).bind outcome = s.outcome.bind fun f => f.fill slot text := by
  have hfill : s.fill slot text = s.settle.bind fun s₀ =>
      (s₀.filled.fill slot text).bind fun filled => .ok { s₀ with filled } := rfl
  rw [hfill]
  cases hsettle : s.settle with
  | error err => simp [outcome, hsettle, Except.map, Except.bind]
  | ok s₀ =>
      obtain ⟨houtcome, hpending, -⟩ := settle_eq_ok_iff.mp hsettle
      rw [houtcome]
      simp only [Except.bind]
      cases s₀.filled.fill slot text with
      | error err => rfl
      | ok f => exact outcome_of_pending_none hpending

theorem exists_fill_iff : (∃ s', s.fill slot text = .ok s' ∧ s'.outcome = .ok f') ↔
    ∃ f, s.outcome = .ok f ∧ f.fill slot text = .ok f' := by
  rw [← bind_eq_ok_iff, fill_bind_outcome, bind_eq_ok_iff]

theorem settle_bind_outcome (s : Scan) (slot : Slot) (text : String) :
    (s.settle.bind fun s => Except.ok { s with pending := some (slot, some text) }).bind outcome =
      s.outcome.bind fun f => f.fill slot text := by
  cases hsettle : s.settle with
  | error err => simp [outcome, hsettle, Except.map, Except.bind]
  | ok s₀ =>
      rw [(settle_eq_ok_iff.mp hsettle).1]
      exact outcome_pending s₀.filled slot text s₀.positionsOnly

theorem exists_position_iff (scope : Scope) (hs : ∀ slot, s.pending ≠ some (slot, none)) :
    (∃ s', s.position scope text = .ok s' ∧ s'.outcome = .ok f') ↔
      ∃ f, s.outcome = .ok f ∧ f.fill .testsDir text = .ok f' := by
  simp only [position_eq_ok_iff hs]
  constructor
  · rintro ⟨_, ⟨f, hf, -, rfl⟩, houtcome⟩
    rw [outcome_pending] at houtcome
    exact ⟨f, hf, houtcome⟩
  · rintro ⟨f, hf, hfilled⟩
    exact ⟨_, ⟨f, hf, (Filled.fill_eq_ok_iff.mp hfilled).1, rfl⟩, by rwa [outcome_pending]⟩

theorem foldlM_singleton (scope : Scope) (s : Scan) (arg : String) :
    [arg].foldlM (read scope) s = s.read scope arg := by
  change (s.read scope arg).bind Except.ok = _
  cases s.read scope arg <;> rfl

theorem foldlM_pair (scope : Scope) (s : Scan) (arg arg' : String) :
    [arg, arg'].foldlM (read scope) s = (s.read scope arg).bind fun s => s.read scope arg' := by
  change (s.read scope arg).bind (fun s => (s.read scope arg').bind Except.ok) = _
  cases s.read scope arg with
  | error e => rfl
  | ok s => exact foldlM_singleton scope s arg'

theorem foldlM_separate {value : String} (hs : s.positionsOnly = false)
    (hword : Slot.ofOption? word.toList = some slot) (hadmits : scope.admits slot = true)
    (hvalue : IsPlain value) : ["--" ++ word, value].foldlM (read scope) s =
      s.settle.bind fun s => .ok { s with pending := some (slot, some value) } := by
  rw [foldlM_pair, read_bare hs hword hadmits]
  cases hsettle : s.settle with
  | error e => rfl
  | ok s₀ =>
      have hoptions : s₀.positionsOnly = false := (settle_eq_ok_iff.mp hsettle).2.2.trans hs
      exact read_plain hoptions hvalue

theorem settle_bind_eq_ok_iff {value : String} : (s.settle.bind fun s =>
    (.ok { s with pending := some (slot, some value) } : Except ArgumentError Scan)) = .ok s' ↔
      ∃ f, s.outcome = .ok f ∧ s' = ⟨f, some (slot, some value), s.positionsOnly⟩ := by
  rw [bind_eq_ok_iff]
  constructor
  · rintro ⟨s₀, hsettle, ⟨⟩⟩
    obtain ⟨houtcome, -, hoptions⟩ := settle_eq_ok_iff.mp hsettle
    exact ⟨_, houtcome, by rw [hoptions]⟩
  · rintro ⟨f, houtcome, rfl⟩
    exact ⟨⟨f, none, s.positionsOnly⟩, settle_eq_ok_iff.mpr ⟨houtcome, rfl, rfl⟩, rfl⟩

section

variable {g : List String} {e : Slot × String}

theorem ready_of_group (hs : s.Ready) (hg : Group g e) (hadmits : scope.admits e.1 = true)
    (hread : g.foldlM (read scope) s = .ok s') : s'.Ready := by
  have hfilled : ∀ {slot : Slot} {text : String}, s.fill slot text = .ok s' → s'.Ready := by
    intro slot text hfill
    obtain ⟨f, -, -, hpending, hoptions⟩ := fill_eq_ok_iff.mp hfill
    exact ⟨hoptions.trans hs.options, by simp [hpending]⟩
  cases hg with
  | letter =>
      rw [foldlM_singleton, (read_verbose hs.options).1] at hread
      exact hfilled hread
  | flag =>
      rw [foldlM_singleton, (read_verbose hs.options).2] at hread
      exact hfilled hread
  | attached value hword =>
      rw [foldlM_singleton, read_attached hs.options hword hadmits] at hread
      exact hfilled hread
  | separate hword hvalue =>
      rw [foldlM_separate hs.options hword hadmits hvalue] at hread
      obtain ⟨f, -, rfl⟩ := settle_bind_eq_ok_iff.mp hread
      exact ⟨hs.options, by simp⟩
  | position htext =>
      rw [foldlM_singleton, read_plain hs.options htext, plain_of_ready hs.complete] at hread
      obtain ⟨f, -, -, rfl⟩ := (position_eq_ok_iff hs.complete).mp hread
      exact ⟨hs.options, by simp⟩

/-- A group settles what came before it and fills its slot. -/
theorem exists_group_iff (hs : s.Ready) (hg : Group g e) (hadmits : scope.admits e.1 = true) :
    (∃ s', g.foldlM (read scope) s = .ok s' ∧ s'.outcome = .ok f') ↔
      ∃ f, s.outcome = .ok f ∧ f.fill e.1 e.2 = .ok f' := by
  cases hg with
  | letter => rw [foldlM_singleton, (read_verbose hs.options).1, exists_fill_iff]
  | flag => rw [foldlM_singleton, (read_verbose hs.options).2, exists_fill_iff]
  | attached value hword =>
      rw [foldlM_singleton, read_attached hs.options hword hadmits, exists_fill_iff]
  | position htext =>
      rw [foldlM_singleton, read_plain hs.options htext, plain_of_ready hs.complete,
        exists_position_iff scope hs.complete]
  | separate hword hvalue =>
      rw [foldlM_separate hs.options hword hadmits hvalue, ← bind_eq_ok_iff, settle_bind_outcome,
        bind_eq_ok_iff]

end

/-! ## Whole lists -/

/-- Behind two dashes alone there is room for the position. -/
theorem exists_last_iff (scope : Scope) (hs : s.Ready) (text : String) :
    (∃ s', ["--", text].foldlM (read scope) s = .ok s' ∧ s'.outcome = .ok f') ↔
      ∃ f, s.outcome = .ok f ∧ f.fill .testsDir text = .ok f' := by
  have hread : ["--", text].foldlM (read scope) s =
      position scope { s with positionsOnly := true } text := by
    rw [foldlM_pair, read_separator hs.options]
    exact read_positionsOnly rfl text
  have hcomplete : ∀ slot, ({ s with positionsOnly := true } : Scan).pending ≠ some (slot, none) :=
    hs.complete
  rw [hread, exists_position_iff scope hcomplete, outcome_positionsOnly]

theorem foldlM_append_eq_ok_iff {args more : List String} :
    (args ++ more).foldlM (read scope) s = .ok s' ↔
      ∃ s₁, args.foldlM (read scope) s = .ok s₁ ∧ more.foldlM (read scope) s₁ = .ok s' := by
  rw [List.foldlM_append]
  exact bind_eq_ok_iff

theorem ready_of_reads {args : List String} (hargs : Reads args f) (hdashes : "--" ∉ args)
    (hs : s.Ready) (hadmits : ∀ e ∈ f, scope.admits e.1 = true)
    (hread : args.foldlM (read scope) s = .ok s') : s'.Ready := by
  induction hargs generalizing s with
  | nil =>
      cases hread
      exact hs
  | separator | last => simp at hdashes
  | @group g args e f hg hargs ih =>
      obtain ⟨hfirst, hall⟩ := List.forall_mem_cons.mp hadmits
      obtain ⟨s₁, hgroup, hmore⟩ := foldlM_append_eq_ok_iff.mp hread
      exact ih (fun hmem => hdashes (List.mem_append_right g hmem))
        (ready_of_group hs hg hfirst hgroup) hall hmore

/-- Groups fill their slots one after the other, and nothing else happens. -/
theorem outcome_of_reads {args : List String} (hargs : Reads args f') (hs : s.Ready)
    (hadmits : ∀ e ∈ f', scope.admits e.1 = true) :
    (∃ s', args.foldlM (read scope) s = .ok s' ∧ s'.outcome = .ok f) ↔
      ∃ f₀, s.outcome = .ok f₀ ∧ f₀.fillAll f' = .ok f := by
  induction hargs generalizing s with
  | nil =>
      have hread : List.foldlM (read scope) s [] = .ok s := rfl
      simp [hread, Filled.fillAll_nil]
  | separator =>
      rw [foldlM_singleton, read_separator hs.options]
      simp [Filled.fillAll_nil, outcome_positionsOnly]
  | last text =>
      simp only [Filled.fillAll_singleton]
      exact exists_last_iff scope hs text
  | @group g args e f' hg hargs ih =>
      obtain ⟨hfirst, hrest⟩ := List.forall_mem_cons.mp hadmits
      simp only [foldlM_append_eq_ok_iff, Filled.fillAll_cons_eq_ok_iff]
      constructor
      · rintro ⟨s', ⟨s₁, hread, hmore⟩, houtcome⟩
        have hready := ready_of_group hs hg hfirst hread
        obtain ⟨f₁, hs₁, hfill⟩ := (ih hready hrest).mp ⟨s', hmore, houtcome⟩
        obtain ⟨f₀, hf₀, hfilled⟩ := (exists_group_iff hs hg hfirst).mp ⟨s₁, hread, hs₁⟩
        exact ⟨f₀, hf₀, f₁, hfilled, hfill⟩
      · rintro ⟨f₀, hf₀, f₁, hfilled, hfill⟩
        obtain ⟨s₁, hread, hs₁⟩ := (exists_group_iff hs hg hfirst).mpr ⟨f₀, hf₀, hfilled⟩
        have hready := ready_of_group hs hg hfirst hread
        obtain ⟨s', hmore, houtcome⟩ := (ih hready hrest).mpr ⟨f₁, hs₁, hfill⟩
        exact ⟨s', ⟨s₁, hread, hmore⟩, houtcome⟩

theorem foldlM_cons_eq_ok_iff {arg : String} {rest : List String} :
    (arg :: rest).foldlM (read scope) s = .ok s' ↔
      ∃ s₁, s.read scope arg = .ok s₁ ∧ rest.foldlM (read scope) s₁ = .ok s' := by
  rw [← List.singleton_append, foldlM_append_eq_ok_iff, foldlM_singleton]

theorem outcome_ne_ok (hs : s.pending = some (slot, none)) : s.outcome ≠ .ok f := by
  rw [outcome, settle, hs]
  simp [Except.map]

/-- Behind two dashes alone a value does not come any more. -/
theorem outcome_ne_ok_of_read {rest : List String} (hs : s.pending = some (slot, none))
    (hpositions : s.positionsOnly = true) (hread : rest.foldlM (read scope) s = .ok s') :
    s'.outcome ≠ .ok f := by
  cases rest with
  | nil =>
      cases hread
      exact outcome_ne_ok hs
  | cons text rest =>
      obtain ⟨s₁, hfirst, -⟩ := foldlM_cons_eq_ok_iff.mp hread
      rw [read_positionsOnly hpositions, position, settle, hs] at hfirst
      split at hfirst <;> cases hfirst

theorem eq_nil_of_read {rest : List String} {filled : Filled}
    (hread : rest.foldlM (read scope) ⟨filled, some (.testsDir, some text), true⟩ = .ok s') :
    rest = [] := by
  cases rest with
  | nil => rfl
  | cons other rest =>
      obtain ⟨s₁, hfirst, -⟩ := foldlM_cons_eq_ok_iff.mp hread
      rw [read_positionsOnly rfl, position, if_pos (by simp [hasPosition])] at hfirst
      cases hfirst

theorem exists_reads {args : List String} (hs : s.Ready)
    (hread : args.foldlM (read scope) s = .ok s') (houtcome : s'.outcome = .ok f) :
    ∃ f', Reads args f' ∧ ∀ e ∈ f', scope.admits e.1 = true := by
  induction hlength : args.length using Nat.strongRecOn generalizing args s with
  | ind n ih =>
    subst hlength
    cases args with
    | nil => exact ⟨[], .nil, by simp⟩
    | cons arg rest =>
      obtain ⟨s₁, hfirst, hrest⟩ := foldlM_cons_eq_ok_iff.mp hread
      rcases read_cases hs.options hfirst with ⟨rfl, rfl⟩ | ⟨e, hg, hadmits, hfill⟩ |
        ⟨word, slot, s₀, rfl, hword, hadmits, hsettle, rfl⟩ | ⟨hplain, hposition⟩
      · cases rest with
        | nil => exact ⟨[], .separator, by simp⟩
        | cons text rest =>
            obtain ⟨s₂, hlast, hmore⟩ := foldlM_cons_eq_ok_iff.mp hrest
            rw [read_positionsOnly rfl] at hlast
            have hcomplete : ∀ slot,
                ({ s with positionsOnly := true } : Scan).pending ≠ some (slot, none) := hs.complete
            obtain ⟨f₂, -, -, rfl⟩ := (position_eq_ok_iff hcomplete).mp hlast
            obtain rfl : rest = [] := eq_nil_of_read hmore
            exact ⟨_, .last text, by simpa using admits_testsDir scope⟩
      · have hready : s₁.Ready :=
          ready_of_group hs hg hadmits ((foldlM_singleton scope s arg).trans hfirst)
        obtain ⟨f', hreads, hall⟩ := ih rest.length (by simp) hready hrest rfl
        exact ⟨e :: f', .group hg hreads, List.forall_mem_cons.mpr ⟨hadmits, hall⟩⟩
      · have hoptions : s₀.positionsOnly = false :=
          (settle_eq_ok_iff.mp hsettle).2.2.trans hs.options
        cases rest with
        | nil =>
            cases hrest
            exact absurd houtcome (outcome_ne_ok rfl)
        | cons value rest =>
            obtain ⟨s₂, hvalue, hmore⟩ := foldlM_cons_eq_ok_iff.mp hrest
            -- Only a text that begins no option can be the value that is still to come.
            have hcases := read_cases (s := { s₀ with pending := some (slot, none) }) hoptions hvalue
            rcases hcases with ⟨rfl, rfl⟩ | ⟨e, -, -, hfill⟩ |
              ⟨_, _, _, -, -, -, hagain, -⟩ | ⟨hplain, hpending⟩
            · exact absurd houtcome (outcome_ne_ok_of_read rfl rfl hmore)
            · obtain ⟨f₂, hf₂, -⟩ := fill_eq_ok_iff.mp hfill
              exact absurd hf₂ (outcome_ne_ok rfl)
            · exact absurd (settle_eq_ok_iff.mp hagain).1 (outcome_ne_ok rfl)
            · cases hpending
              have hready : Ready ⟨s₀.filled, some (slot, some value), s₀.positionsOnly⟩ :=
                ⟨hoptions, by simp⟩
              have hshorter : rest.length < (("--" ++ word) :: value :: rest).length := by
                rw [List.length_cons, List.length_cons]
                omega
              obtain ⟨f', hreads, hall⟩ := ih rest.length hshorter hready hmore rfl
              exact ⟨_, .group (.separate hword hplain) hreads,
                List.forall_mem_cons.mpr ⟨hadmits, hall⟩⟩
      · rw [plain_of_ready hs.complete] at hposition
        obtain ⟨f₁, -, -, rfl⟩ := (position_eq_ok_iff hs.complete).mp hposition
        have hready : Ready ⟨f₁, some (.testsDir, some arg), s.positionsOnly⟩ :=
          ⟨hs.options, by simp⟩
        obtain ⟨f', hreads, hall⟩ := ih rest.length (by simp) hready hrest rfl
        exact ⟨_, .group (.position hplain) hreads,
          List.forall_mem_cons.mpr ⟨admits_testsDir scope, hall⟩⟩

theorem all_eq (scope : Scope) (args : List String) :
    all scope args = (args.foldlM (read scope) start).bind outcome := by
  rw [all]
  cases args.foldlM (read scope) start with
  | error e => rfl
  | ok s =>
      change (s.settle.bind fun s => Except.ok s.filled) = s.settle.map filled
      cases s.settle <;> rfl

theorem all_eq_ok_iff_outcome {args : List String} : all scope args = .ok f ↔
    ∃ s', args.foldlM (read scope) start = .ok s' ∧ s'.outcome = .ok f := by
  rw [all_eq, bind_eq_ok_iff]

/-- An argument list is accepted if it falls into groups for different slots that take their texts. -/
theorem all_eq_ok_iff {args : List String} : all scope args = .ok f ↔
    Reads args f ∧ (f.map Prod.fst).Nodup ∧
      ∀ e ∈ f, scope.admits e.1 = true ∧ e.1.check e.2 = .ok () := by
  have hstart : start.outcome = .ok [] := rfl
  have hfills : ∀ {f' : Filled}, (∃ f₀, start.outcome = .ok f₀ ∧ f₀.fillAll f' = .ok f) ↔
      f = f' ∧ (f'.map Prod.fst).Nodup ∧ ∀ e ∈ f', e.1.check e.2 = .ok () := by
    intro f'
    simp [hstart, Filled.fillAll_eq_ok_iff, Filled.has]
  rw [all_eq_ok_iff_outcome]
  constructor
  · rintro ⟨s', hread, houtcome⟩
    obtain ⟨f', hreads, hadmits⟩ := exists_reads ready_start hread houtcome
    obtain ⟨rfl, hnodup, hchecks⟩ :=
      hfills.mp ((outcome_of_reads hreads ready_start hadmits).mp ⟨s', hread, houtcome⟩)
    exact ⟨hreads, hnodup, fun e he => ⟨hadmits e he, hchecks e he⟩⟩
  · rintro ⟨hreads, hnodup, hall⟩
    refine (outcome_of_reads hreads ready_start fun e he => (hall e he).1).mpr ?_
    exact hfills.mpr ⟨rfl, hnodup, fun e he => (hall e he).2⟩

end Scan

end Conformance
