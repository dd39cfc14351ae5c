import Conformance.Arguments.Scan
import Mathlib.Data.List.TakeWhile

/-!
# Reading one argument

What the reader does with an argument, and what an argument must have been that it has read without a
fault.  The slots that would be filled if nothing more came are the outcome so far; the value that is
pending counts for it, if it has come.
-/

namespace Conformance

/-- A text that begins no option: a dash alone, or one that begins otherwise. -/
def IsPlain (text : String) : Prop := text = "-" ∨ text.toList.head? ≠ some '-'

instance : DecidablePred IsPlain := fun _ => inferInstanceAs (Decidable (_ ∨ _))

/-- What is done in two steps has no fault if neither of them has. -/
theorem bind_eq_ok_iff {α β : Type} {x : Except ArgumentError α} {k : α → Except ArgumentError β}
    {b : β} : x.bind k = .ok b ↔ ∃ a, x = .ok a ∧ k a = .ok b := by
  cases x <;> simp [Except.bind]

/-! ## The names of options -/

namespace Slot

variable {name name' : List Char} {slot : Slot}

/-- The names of the options, with the slots that they fill. -/
def options : List (String × Slot) :=
  [("extension", extension), ("compiler", compiler), ("build", build), ("executable", executable),
    ("timeout", timeout), ("color", color), ("format", format)]

theorem mem_options (h : ofOption? name = some slot) :
    ∃ word, word.toList = name ∧ (word, slot) ∈ options := by
  obtain ⟨⟨word, found⟩, hmem, hsome⟩ := List.exists_of_findSome?_eq_some h
  dsimp only at hsome
  split at hsome
  · rename_i hword
    obtain rfl := Option.some.inj hsome
    exact ⟨word, hword, hmem⟩
  · cases hsome

theorem ofOption?_of_mem_options : ∀ p ∈ options, ofOption? p.1.toList = some p.2 := by decide

theorem notMem_of_ofOption? (h : ofOption? name = some slot) : '=' ∉ name := by
  obtain ⟨word, rfl, hmem⟩ := mem_options h
  have hall : ∀ p ∈ options, '=' ∉ p.1.toList := by decide
  exact hall _ hmem

theorem ne_nil_of_ofOption? (h : ofOption? name = some slot) : name ≠ [] := by
  obtain ⟨word, rfl, hmem⟩ := mem_options h
  have hall : ∀ p ∈ options, p.1.toList ≠ [] := by decide
  exact hall _ hmem

theorem ofWord?_of_ofOption? (h : ofOption? name = some slot) : Flag.ofWord? name = none := by
  obtain ⟨word, rfl, hmem⟩ := mem_options h
  have hall : ∀ p ∈ options, Flag.ofWord? p.1.toList = none := by decide
  exact hall _ hmem

/-- No two options fill the same slot. -/
theorem ofOption?_inj (h : ofOption? name = some slot) (h' : ofOption? name' = some slot) :
    name = name' := by
  obtain ⟨word, rfl, hmem⟩ := mem_options h
  obtain ⟨word', rfl, hmem'⟩ := mem_options h'
  have hall : ∀ p ∈ options, ∀ q ∈ options, p.2 = q.2 → p.1 = q.1 := by decide
  exact congrArg String.toList (hall _ hmem _ hmem' rfl)

theorem ne_of_ofOption? (h : ofOption? name = some slot) : slot ≠ testsDir ∧ slot ≠ verbose := by
  obtain ⟨word, rfl, hmem⟩ := mem_options h
  have hall : ∀ p ∈ options, p.2 ≠ testsDir ∧ p.2 ≠ verbose := by decide
  exact hall _ hmem

end Slot

/-! ## Filling slots -/

namespace Filled

variable {f g : Filled} {slot : Slot} {text : String}

theorem fill_eq_ok_iff : f.fill slot text = .ok g ↔
    f.has slot = false ∧ slot.check text = .ok () ∧ g = f ++ [(slot, text)] := by
  unfold fill
  cases hhas : f.has slot with
  | true => simp [throw, throwThe, MonadExceptOf.throw, bind, Except.bind]
  | false =>
      cases hcheck : slot.check text <;>
        simp [bind, Except.bind, pure, Except.pure, eq_comm]

/-- Fills slots one after the other. -/
def fillAll (f g : Filled) : Except ArgumentError Filled :=
  g.foldlM (fun f e => f.fill e.1 e.2) f

theorem fillAll_nil (f : Filled) : f.fillAll [] = .ok f := rfl

theorem fillAll_cons_eq_ok_iff {f' : Filled} {e : Slot × String} :
    f.fillAll (e :: g) = .ok f' ↔ ∃ f₁, f.fill e.1 e.2 = .ok f₁ ∧ f₁.fillAll g = .ok f' :=
  bind_eq_ok_iff

theorem fillAll_singleton (f : Filled) (e : Slot × String) :
    f.fillAll [e] = f.fill e.1 e.2 := by
  change (f.fill e.1 e.2).bind Except.ok = _
  cases f.fill e.1 e.2 <;> rfl

theorem has_append_singleton (f : Filled) (e : Slot × String) (slot : Slot) :
    Filled.has (f ++ [e]) slot = false ↔ f.has slot = false ∧ e.1 ≠ slot := by
  simp [Filled.has]

/-- All slots are filled if they are free and different from each other and take their texts. -/
theorem fillAll_eq_ok_iff {f' : Filled} : f.fillAll g = .ok f' ↔ f' = f ++ g ∧
    (∀ e ∈ g, f.has e.1 = false) ∧ (g.map Prod.fst).Nodup ∧ ∀ e ∈ g, e.1.check e.2 = .ok () := by
  induction g generalizing f with
  | nil =>
      rw [fillAll_nil, List.append_nil]
      constructor
      · rintro ⟨⟩
        simp
      · rintro ⟨rfl, -⟩
        rfl
  | cons e g ih =>
      simp only [fillAll_cons_eq_ok_iff, fill_eq_ok_iff, List.forall_mem_cons, List.map_cons, List.nodup_cons]
      constructor
      · rintro ⟨_, ⟨hfree, hcheck, rfl⟩, hrest⟩
        obtain ⟨rfl, hfrees, hnodup, hchecks⟩ := ih.mp hrest
        simp only [has_append_singleton] at hfrees
        refine ⟨(List.append_cons f e g).symm,
          ⟨hfree, fun other hother => (hfrees other hother).1⟩, ⟨?_, hnodup⟩,
          hcheck, hchecks⟩
        intro hmem
        obtain ⟨other, hother, heq⟩ := List.mem_map.mp hmem
        exact (hfrees other hother).2 heq.symm
      · rintro ⟨rfl, ⟨hfree, hfrees⟩, ⟨hnew, hnodup⟩, hcheck, hchecks⟩
        refine ⟨_, ⟨hfree, hcheck, rfl⟩,
          ih.mpr ⟨List.append_cons f e g, fun other hother => ?_, hnodup, hchecks⟩⟩
        rw [has_append_singleton]
        exact ⟨hfrees other hother, fun heq => hnew (heq ▸ List.mem_map_of_mem hother)⟩

end Filled

namespace Scan

variable {scope : Scope} {s s' : Scan} {slot : Slot} {word text : String} {f f' : Filled}

/-- The slots as they are if nothing more comes. -/
def outcome (s : Scan) : Except ArgumentError Filled := s.settle.map filled

/-- No value is still to come and options may come. -/
structure Ready (s : Scan) : Prop where
  options : s.positionsOnly = false
  complete : ∀ slot, s.pending ≠ some (slot, none)

theorem ready_start : start.Ready := ⟨rfl, by simp [start]⟩

theorem settle_eq_ok_iff : s.settle = .ok s' ↔
    s.outcome = .ok s'.filled ∧ s'.pending = none ∧ s'.positionsOnly = s.positionsOnly := by
  obtain ⟨filled, pending, positionsOnly⟩ := s
  obtain ⟨filled', pending', positionsOnly'⟩ := s'
  rcases pending with _ | ⟨slot, _ | text⟩
  · simp [outcome, settle, Except.map, eq_comm]
  · simp [outcome, settle, Except.map]
  · cases hfill : filled.fill slot text <;>
      simp [outcome, settle, hfill, Except.map, bind, Except.bind, pure, Except.pure, eq_comm]

theorem outcome_of_pending_none (hs : s.pending = none) : s.outcome = .ok s.filled := by
  rw [outcome, settle, hs]
  rfl

theorem fill_eq_ok_iff : s.fill slot text = .ok s' ↔ ∃ f, s.outcome = .ok f ∧
    f.fill slot text = .ok s'.filled ∧ s'.pending = none ∧
      s'.positionsOnly = s.positionsOnly := by
  have hfill : s.fill slot text = s.settle.bind fun s₀ =>
      (s₀.filled.fill slot text).bind fun filled => .ok { s₀ with filled } := rfl
  simp only [hfill, bind_eq_ok_iff]
  constructor
  · rintro ⟨s₀, hsettle, f, hfilled, ⟨⟩⟩
    obtain ⟨houtcome, hpending, hoptions⟩ := settle_eq_ok_iff.mp hsettle
    exact ⟨_, houtcome, hfilled, hpending, hoptions⟩
  · rintro ⟨f, houtcome, hfilled, hpending, hoptions⟩
    obtain ⟨filled, pending, positionsOnly⟩ := s'
    cases hpending
    cases hoptions
    exact ⟨⟨f, none, s.positionsOnly⟩, settle_eq_ok_iff.mpr ⟨houtcome, rfl, rfl⟩, filled, hfilled,
      rfl⟩

theorem has_of_fill (h : s.fill slot text = .ok s') : s'.filled.has slot = true := by
  obtain ⟨f, -, hfill, -⟩ := fill_eq_ok_iff.mp h
  obtain ⟨-, -, hfilled⟩ := Filled.fill_eq_ok_iff.mp hfill
  simp [hfilled, Filled.has]

theorem outcome_pending (f : Filled) (slot : Slot) (text : String) (positionsOnly : Bool) :
    outcome ⟨f, some (slot, some text), positionsOnly⟩ = f.fill slot text := by
  have hsettle : settle ⟨f, some (slot, some text), positionsOnly⟩ =
      (f.fill slot text).bind fun f => .ok ⟨f, none, positionsOnly⟩ := rfl
  rw [outcome, hsettle]
  cases f.fill slot text <;> rfl

theorem outcome_positionsOnly (s : Scan) (positionsOnly : Bool) :
    outcome { s with positionsOnly } = s.outcome := by
  obtain ⟨f, _ | ⟨slot, _ | text⟩, _⟩ := s
  · rfl
  · rfl
  · rw [outcome_pending, outcome_pending]

/-- The position is known to be filled as soon as its text has been read. -/
theorem hasPosition_of_outcome (hs : ∀ slot, s.pending ≠ some (slot, none))
    (houtcome : s.outcome = .ok f) : s.hasPosition = f.has .testsDir := by
  obtain ⟨filled, _ | ⟨slot, _ | text⟩, _⟩ := s
  · cases houtcome
    simp [hasPosition]
  · exact absurd rfl (hs slot)
  · rw [outcome_pending] at houtcome
    obtain ⟨-, -, rfl⟩ := Filled.fill_eq_ok_iff.mp houtcome
    simp [hasPosition, Filled.has]

theorem plain_of_ready (hs : ∀ slot, s.pending ≠ some (slot, none)) (text : String) :
    s.plain scope text = s.position scope text := by
  rw [plain]
  split
  · exact absurd ‹_› (hs _)
  · rfl

/-- A text in the position is pending afterwards. -/
theorem position_eq_ok_iff (hs : ∀ slot, s.pending ≠ some (slot, none)) :
    s.position scope text = .ok s' ↔ ∃ f, s.outcome = .ok f ∧ f.has .testsDir = false ∧
      s' = ⟨f, some (.testsDir, some text), s.positionsOnly⟩ := by
  rw [position]
  constructor
  · intro h
    split at h
    · cases h
    · rename_i hfree
      obtain ⟨s₀, hsettle, ⟨⟩⟩ := bind_eq_ok_iff.mp h
      obtain ⟨houtcome, -, hoptions⟩ := settle_eq_ok_iff.mp hsettle
      rw [hasPosition_of_outcome hs houtcome] at hfree
      exact ⟨_, houtcome, by simpa using hfree, by rw [hoptions]⟩
  · rintro ⟨f, houtcome, hfree, rfl⟩
    have hsettle : s.settle = .ok ⟨f, none, s.positionsOnly⟩ :=
      settle_eq_ok_iff.mpr ⟨houtcome, rfl, rfl⟩
    rw [hasPosition_of_outcome hs houtcome, hfree, hsettle]
    rfl

/-! ## Forms of arguments -/

theorem read_positionsOnly (hs : s.positionsOnly = true) (arg : String) :
    s.read scope arg = s.position scope arg := by
  rw [read, if_pos hs]

theorem read_separator (hs : s.positionsOnly = false) :
    s.read scope "--" = .ok { s with positionsOnly := true } := by
  simp [read, hs]

theorem read_plain (hs : s.positionsOnly = false) (htext : IsPlain text) :
    s.read scope text = s.plain scope text := by
  rw [read, if_neg (by simp [hs])]
  rcases htext with rfl | hhead
  · rfl
  · split
    · exact absurd ‹_› (fun h => hhead (by simp [h]))
    · exact absurd ‹_› (fun h => hhead (by simp [h]))
    · exact absurd ‹_› (fun h => hhead (by simp [h]))
    · exact absurd ‹_› (fun h => hhead (by simp [h]))
    · rfl

theorem read_named {name : List Char} (hs : s.positionsOnly = false)
    (harg : text.toList = '-' :: '-' :: name) (hname : name ≠ []) :
    s.read scope text = s.named scope name := by
  obtain ⟨c, name, rfl⟩ := List.exists_cons_of_ne_nil hname
  rw [read, if_neg (by simp [hs]), harg]
  rfl

theorem splitEquals_append {name : List Char} (hname : '=' ∉ name) (value : List Char) :
    splitEquals (name ++ '=' :: value) = (name, some value) := by
  have hall : ∀ c ∈ name, (c != '=') = true := by
    intro c hc
    simpa using fun heq : c = '=' => hname (heq ▸ hc)
  simp [splitEquals, List.dropWhile_append_of_pos hall, List.takeWhile_append_of_pos hall]

theorem splitEquals_of_notMem {name : List Char} (hname : '=' ∉ name) :
    splitEquals name = (name, none) := by
  have hall : ∀ c ∈ name, (c != '=') = true := by
    intro c hc
    simpa using fun heq : c = '=' => hname (heq ▸ hc)
  have hdrop : name.dropWhile (· != '=') = [] := List.dropWhile_eq_nil_iff.mpr hall
  rw [splitEquals, hdrop]

theorem read_attached (hs : s.positionsOnly = false) (hword : Slot.ofOption? word.toList = some slot)
    (hadmits : scope.admits slot = true) (value : String) :
    s.read scope ("--" ++ word ++ "=" ++ value) = s.fill slot value := by
  have harg : ("--" ++ word ++ "=" ++ value).toList =
      '-' :: '-' :: (word.toList ++ '=' :: value.toList) := by simp
  rw [read_named hs harg (by simp), named, splitEquals_append (Slot.notMem_of_ofOption? hword)]
  simp [Slot.ofWord?_of_ofOption? hword, hword, Option.filter_some, hadmits]

theorem read_bare (hs : s.positionsOnly = false) (hword : Slot.ofOption? word.toList = some slot)
    (hadmits : scope.admits slot = true) :
    s.read scope ("--" ++ word) =
      s.settle.bind fun s => .ok { s with pending := some (slot, none) } := by
  have harg : ("--" ++ word).toList = '-' :: '-' :: word.toList := by simp
  rw [read_named hs harg (Slot.ne_nil_of_ofOption? hword), named,
    splitEquals_of_notMem (Slot.notMem_of_ofOption? hword)]
  simp [Slot.ofWord?_of_ofOption? hword, hword, Option.filter_some, hadmits]
  rfl

theorem splitEquals_cases (name : List Char) :
    splitEquals name = (name, none) ∨
      ∃ front value, splitEquals name = (front, some value) ∧ name = front ++ '=' :: value := by
  have hsplit := List.takeWhile_append_dropWhile (p := (· != '=')) (l := name)
  unfold splitEquals
  cases hdrop : name.dropWhile (· != '=') with
  | nil => exact .inl rfl
  | cons c value =>
      have hc : c = '=' := by
        have hhead := List.head?_dropWhile_not (· != '=') name
        rw [hdrop] at hhead
        simpa using hhead
      rw [hdrop, hc] at hsplit
      exact .inr ⟨_, value, rfl, hsplit.symm⟩

/-- A flag that is raised without an end to the reading is the one for more words. -/
theorem raise_eq_ok {flag : Flag} (h : s.raise flag = .ok s') :
    flag = .verbose ∧ s.fill .verbose "" = .ok s' := by
  cases flag with
  | verbose => exact ⟨rfl, h⟩
  | help | version =>
      obtain ⟨_, -, hasked⟩ := bind_eq_ok_iff.mp h
      cases hasked

theorem ofWord?_eq_verbose {name : List Char} (h : Flag.ofWord? name = some .verbose) :
    name = "verbose".toList := by
  unfold Flag.ofWord? at h
  split at h
  · assumption
  · split at h
    · cases h
    · split at h <;> cases h

theorem ofLetter?_eq_verbose {c : Char} (h : Flag.ofLetter? c = some .verbose) : c = 'v' := by
  unfold Flag.ofLetter? at h
  split at h
  · rfl
  all_goals cases h

/-- What the name of a flag or an option has done. -/
theorem named_cases {name : List Char} (h : s.named scope name = .ok s') :
    (name = "verbose".toList ∧ s.fill .verbose "" = .ok s') ∨
    (∃ slot front value, name = front ++ '=' :: value ∧ Slot.ofOption? front = some slot ∧
      scope.admits slot = true ∧ s.fill slot (String.ofList value) = .ok s') ∨
    ∃ slot s₀, Slot.ofOption? name = some slot ∧ scope.admits slot = true ∧ s.settle = .ok s₀ ∧
      s' = { s₀ with pending := some (slot, none) } := by
  unfold named at h
  rcases splitEquals_cases name with hsplit | ⟨front, value, hsplit, hname⟩
  · rw [hsplit] at h
    cases hflag : (Flag.ofWord? name).filter (Flag.isIn scope) with
    | some flag =>
        obtain ⟨hword, -⟩ := Option.filter_eq_some_iff.mp hflag
        simp only [hflag] at h
        obtain ⟨rfl, hfill⟩ := raise_eq_ok h
        exact .inl ⟨ofWord?_eq_verbose hword, hfill⟩
    | none =>
        cases hslot : (Slot.ofOption? name).filter scope.admits with
        | none =>
            simp only [hflag, hslot] at h
            cases h
        | some slot =>
            obtain ⟨hoption, hadmits⟩ := Option.filter_eq_some_iff.mp hslot
            simp only [hflag, hslot] at h
            obtain ⟨s₀, hsettle, ⟨⟩⟩ := bind_eq_ok_iff.mp h
            exact .inr (.inr ⟨slot, s₀, hoption, hadmits, hsettle, rfl⟩)
  · rw [hsplit] at h
    cases hflag : (Flag.ofWord? front).filter (Flag.isIn scope) with
    | some flag =>
        simp only [hflag] at h
        cases h
    | none =>
        cases hslot : (Slot.ofOption? front).filter scope.admits with
        | none =>
            simp only [hflag, hslot] at h
            cases h
        | some slot =>
            obtain ⟨hoption, hadmits⟩ := Option.filter_eq_some_iff.mp hslot
            simp only [hflag, hslot] at h
            exact .inr (.inl ⟨slot, front, value, hname, hoption, hadmits, h⟩)

/-- A flag that has been raised cannot be raised again, so there is one letter. -/
theorem letters_cases {c : Char} {rest : List Char} (h : s.letters scope (c :: rest) = .ok s') :
    c = 'v' ∧ rest = [] ∧ s.fill .verbose "" = .ok s' := by
  have hfirst : ∀ {s s' : Scan} {c : Char} {rest : List Char},
      s.letters scope (c :: rest) = .ok s' →
        c = 'v' ∧ ∃ s₁, s.fill .verbose "" = .ok s₁ ∧ s₁.letters scope rest = .ok s' := by
    intro s s' c rest h
    unfold letters at h
    cases hflag : (Flag.ofLetter? c).filter (Flag.isIn scope) with
    | none =>
        rw [hflag] at h
        cases h
    | some flag =>
        obtain ⟨hletter, -⟩ := Option.filter_eq_some_iff.mp hflag
        simp only [hflag] at h
        obtain ⟨s₁, hraise, hmore⟩ := bind_eq_ok_iff.mp h
        obtain ⟨rfl, hfill⟩ := raise_eq_ok hraise
        exact ⟨ofLetter?_eq_verbose hletter, s₁, hfill, hmore⟩
  obtain ⟨rfl, s₁, hfill, hrest⟩ := hfirst h
  cases rest with
  | nil =>
      cases hrest
      exact ⟨rfl, rfl, hfill⟩
  | cons c rest =>
      obtain ⟨-, s₂, hagain, -⟩ := hfirst hrest
      obtain ⟨_, -, -, hpending, -⟩ := fill_eq_ok_iff.mp hfill
      obtain ⟨f, houtcome, htwice, -⟩ := fill_eq_ok_iff.mp hagain
      rw [outcome_of_pending_none hpending] at houtcome
      cases houtcome
      have hfree := (Filled.fill_eq_ok_iff.mp htwice).1
      rw [has_of_fill hfill] at hfree
      cases hfree

theorem admits_verbose (scope : Scope) : scope.admits .verbose = true := by
  cases scope <;> rfl

theorem admits_testsDir (scope : Scope) : scope.admits .testsDir = true := by
  cases scope <;> rfl

theorem read_verbose (hs : s.positionsOnly = false) :
    s.read scope "-v" = s.fill .verbose "" ∧ s.read scope "--verbose" = s.fill .verbose "" := by
  have hletter : (Flag.ofLetter? 'v').filter (Flag.isIn scope) = some .verbose := by
    cases scope <;> rfl
  have hword : (Flag.ofWord? "verbose".toList).filter (Flag.isIn scope) = some .verbose := by
    cases scope <;> rfl
  have hsplit : splitEquals "verbose".toList = ("verbose".toList, none) := by decide
  have hnamed : s.read scope "--verbose" = s.named scope "verbose".toList :=
    read_named hs (by simp) (by simp)
  constructor
  · have hletters : s.read scope "-v" = s.letters scope ['v'] := by
      rw [read, if_neg (by simp [hs])]
      rfl
    rw [hletters, letters, hletter]
    change (s.fill .verbose "").bind Except.ok = _
    cases s.fill .verbose "" <;> rfl
  · rw [hnamed, named, hsplit]
    simp only [hword]
    rfl

end Scan

end Conformance
