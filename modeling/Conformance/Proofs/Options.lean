import Conformance.Proofs.Groups

/-!
# What is among the arguments

Which options are given and whether there is a position can be seen from the arguments as they are
written.  Where they fall into groups, just the slots are filled for which that is so.
-/

namespace Conformance

/-- The argument gives the option, with its value or without. -/
def NamesOption (word arg : String) : Prop :=
  arg = "--" ++ word ∨ ∃ value, arg = "--" ++ word ++ "=" ++ value

instance (word arg : String) : Decidable (NamesOption word arg) :=
  decidable_of_iff (arg = "--" ++ word ∨ ("--" ++ word ++ "=").toList <+: arg.toList) <| by
    refine or_congr_right ⟨?_, ?_⟩
    · rintro ⟨value, hvalue⟩
      refine ⟨String.ofList value, ?_⟩
      rw [← String.toList_inj, ← hvalue]
      simp
    · rintro ⟨value, rfl⟩
      exact ⟨value.toList, by simp⟩

/-- The option is given in front of two dashes alone. -/
def Mentions (word : String) (args : List String) : Prop :=
  ∃ arg ∈ args.takeWhile (· != "--"), NamesOption word arg

instance (word : String) (args : List String) : Decidable (Mentions word args) :=
  inferInstanceAs (Decidable (∃ arg ∈ args.takeWhile (· != "--"), NamesOption word arg))

/-- The next argument is the value of this one. -/
def takesValue (arg : String) : Bool :=
  match arg.toList with
  | '-' :: '-' :: name => (Slot.ofOption? name).isSome
  | _ => false

/-- A text stands in the position. -/
def fillsPosition : List String → Bool
  | [] => false
  | [arg] => IsPlain arg
  | arg :: next :: rest =>
      if arg = "--" then true
      else if takesValue arg then fillsPosition rest
      else IsPlain arg || fillsPosition (next :: rest)

theorem namesOption_iff {word arg : String} : NamesOption word arg ↔
    arg.toList = '-' :: '-' :: word.toList ∨
      ∃ value, arg.toList = '-' :: '-' :: (word.toList ++ '=' :: value) := by
  simp only [NamesOption, ← String.toList_inj]
  constructor
  · rintro (h | ⟨value, h⟩)
    · exact .inl (by simpa using h)
    · exact .inr ⟨value.toList, by simpa using h⟩
  · rintro (h | ⟨value, h⟩)
    · exact .inl (by simpa using h)
    · exact .inr ⟨String.ofList value, by simpa using h⟩

theorem IsPlain.ne_dashes {text : String} (h : IsPlain text) (name : List Char) :
    text.toList ≠ '-' :: '-' :: name := by
  intro htext
  rcases h with rfl | hhead
  · exact absurd htext (by simp)
  · exact hhead (by rw [htext]; rfl)

theorem IsPlain.not_namesOption {text : String} (h : IsPlain text) (word : String) :
    ¬ NamesOption word text := by
  rw [namesOption_iff]
  rintro (htext | ⟨value, htext⟩)
  · exact h.ne_dashes _ htext
  · exact h.ne_dashes _ htext

section

variable {word word' : String} {slot slot' : Slot}

theorem namesOption_bare (hword : Slot.ofOption? word.toList = some slot)
    (hword' : Slot.ofOption? word'.toList = some slot') :
    NamesOption word ("--" ++ word') ↔ slot' = slot := by
  constructor
  · intro h
    rcases namesOption_iff.mp h with htext | ⟨value, htext⟩
    · have hname : word'.toList = word.toList := by simpa using htext
      rw [hname, hword] at hword'
      exact (Option.some.inj hword').symm
    · have hname : word'.toList = word.toList ++ '=' :: value := by simpa using htext
      exact absurd (by simp [hname]) (Slot.notMem_of_ofOption? hword')
  · rintro rfl
    exact .inl (by rw [String.toList_inj.mp (Slot.ofOption?_inj hword hword')])

theorem namesOption_attached (hword : Slot.ofOption? word.toList = some slot)
    (hword' : Slot.ofOption? word'.toList = some slot') (value : String) :
    NamesOption word ("--" ++ word' ++ "=" ++ value) ↔ slot' = slot := by
  have hequals := Slot.notMem_of_ofOption? hword
  have hequals' := Slot.notMem_of_ofOption? hword'
  constructor
  · intro h
    rcases namesOption_iff.mp h with htext | ⟨other, htext⟩
    · have hname : word'.toList ++ '=' :: value.toList = word.toList := by simpa using htext
      exact absurd (by simp [← hname]) hequals
    · have hname : word'.toList ++ '=' :: value.toList = word.toList ++ '=' :: other := by
        simpa using htext
      have hsplit := Scan.splitEquals_append hequals' value.toList
      rw [hname, Scan.splitEquals_append hequals, Prod.mk.injEq] at hsplit
      rw [← hsplit.1, hword] at hword'
      exact (Option.some.inj hword').symm
  · rintro rfl
    exact .inr ⟨value, by rw [String.toList_inj.mp (Slot.ofOption?_inj hword hword')]⟩

theorem takesValue_attached (word value : String) :
    takesValue ("--" ++ word ++ "=" ++ value) = false := by
  have htext : ("--" ++ word ++ "=" ++ value).toList =
      '-' :: '-' :: (word.toList ++ '=' :: value.toList) := by simp
  rw [takesValue, htext]
  refine Option.isSome_eq_false_iff.mpr (Option.isNone_iff_eq_none.mpr ?_)
  by_contra hsome
  obtain ⟨other, hother⟩ := Option.ne_none_iff_exists'.mp hsome
  exact absurd (by simp) (Slot.notMem_of_ofOption? hother)

theorem takesValue_bare (hword : Slot.ofOption? word.toList = some slot) :
    takesValue ("--" ++ word) = true := by
  have htext : ("--" ++ word).toList = '-' :: '-' :: word.toList := by simp
  rw [takesValue, htext]
  simp [hword]

end

theorem fillsPosition_cons {arg : String} (hdashes : arg ≠ "--") (hvalue : takesValue arg = false)
    (rest : List String) : fillsPosition (arg :: rest) = (IsPlain arg || fillsPosition rest) := by
  cases rest with
  | nil => simp [fillsPosition]
  | cons next rest => simp [fillsPosition, hdashes, hvalue]

theorem IsPlain.takesValue {text : String} (h : IsPlain text) : takesValue text = false := by
  rw [Conformance.takesValue]
  split
  · exact absurd ‹_› (h.ne_dashes _)
  · rfl

namespace Group

variable {g : List String} {e : Slot × String} {word : String} {slot : Slot}

theorem ne_separator (hg : Group g e) : ∀ arg ∈ g, arg ≠ "--" := by
  have hplain : ∀ {text : String}, IsPlain text → text ≠ "--" := by
    rintro text htext rfl
    exact htext.ne_dashes [] (by simp)
  cases hg with
  | letter | flag => decide
  | attached value hword =>
      refine List.forall_mem_singleton.mpr fun heq => ?_
      have htext := congrArg String.toList heq
      simp at htext
  | @separate word value slot hword hvalue =>
      simp only [List.forall_mem_cons]
      refine ⟨fun heq => Slot.ne_nil_of_ofOption? hword ?_, hplain hvalue, by simp⟩
      have htext : "--".toList ++ word.toList = "--".toList := by
        rw [← String.toList_append, heq]
      exact List.append_right_eq_self.mp htext
  | position htext => simpa using hplain htext

/-- A group fills the slot of an option if it names this option. -/
theorem names_iff (hg : Group g e) (hword : Slot.ofOption? word.toList = some slot) :
    (∃ arg ∈ g, NamesOption word arg) ↔ e.1 = slot := by
  obtain ⟨hposition, hverbose⟩ := Slot.ne_of_ofOption? hword
  cases hg with
  | letter =>
      refine iff_of_false ?_ (Ne.symm hverbose)
      simp [namesOption_iff]
  | flag =>
      refine iff_of_false ?_ (Ne.symm hverbose)
      simp only [List.mem_singleton, exists_eq_left, namesOption_iff]
      rintro (htext | ⟨value, htext⟩)
      · have hname : word.toList = "verbose".toList := by simpa using htext.symm
        have hnone : Slot.ofOption? "verbose".toList = none := by decide
        rw [hname, hnone] at hword
        cases hword
      · have hequals : '=' ∈ "--verbose".toList := by simp [htext]
        exact absurd hequals (by decide)
  | attached value hword' =>
      simp only [List.mem_singleton, exists_eq_left]
      exact namesOption_attached hword hword' value
  | separate hword' hvalue =>
      have hbare := namesOption_bare hword hword'
      have hnone := hvalue.not_namesOption word
      simp [hbare, hnone]
  | position htext =>
      refine iff_of_false ?_ (Ne.symm hposition)
      simp only [List.mem_singleton, exists_eq_left]
      exact htext.not_namesOption word

theorem fillsPosition_append (hg : Group g e) (args : List String) :
    fillsPosition (g ++ args) = (decide (e.1 = .testsDir) || fillsPosition args) := by
  have hdashes := hg.ne_separator
  cases hg with
  | letter =>
      rw [List.singleton_append, fillsPosition_cons (by decide) (by decide)]
      simp [IsPlain]
  | flag =>
      rw [List.singleton_append, fillsPosition_cons (by decide) (by decide)]
      simp [IsPlain]
  | @attached word slot value hword =>
      have hplain : ¬ IsPlain ("--" ++ word ++ "=" ++ value) := fun h =>
        h.ne_dashes (word.toList ++ '=' :: value.toList) (by simp)
      rw [List.singleton_append, fillsPosition_cons (hdashes _ (by simp))
        (takesValue_attached word value)]
      simp [hplain, (Slot.ne_of_ofOption? hword).1]
  | @separate word value slot hword hvalue =>
      rw [List.cons_append, List.singleton_append, fillsPosition, if_neg (hdashes _ (by simp)),
        if_pos (takesValue_bare hword)]
      simp [(Slot.ne_of_ofOption? hword).1]
  | position htext =>
      rw [List.singleton_append, fillsPosition_cons (by simpa using hdashes) htext.takesValue]
      simp [htext]

end Group

namespace Reads

variable {args : List String} {f : Filled} {word : String} {slot : Slot}

theorem has_iff_mentions (h : Reads args f) (hword : Slot.ofOption? word.toList = some slot) :
    f.has slot = true ↔ Mentions word args := by
  have hposition : slot ≠ .testsDir := (Slot.ne_of_ofOption? hword).1
  induction h with
  | nil | separator => simp [Filled.has, Mentions]
  | last text => simp [Filled.has, Mentions, Ne.symm hposition]
  | @group g args e f hg hargs ih =>
      have htake : (g ++ args).takeWhile (· != "--") = g ++ args.takeWhile (· != "--") :=
        List.takeWhile_append_of_pos (by simpa using hg.ne_separator)
      have hmentions : Mentions word (g ++ args) ↔
          (∃ arg ∈ g, NamesOption word arg) ∨ Mentions word args := by
        simp only [Mentions, htake, List.mem_append, or_and_right, exists_or]
      have hcons : Filled.has (e :: f) slot = (decide (e.1 = slot) || f.has slot) := List.any_cons
      rw [hmentions, hg.names_iff hword, hcons, Bool.or_eq_true, decide_eq_true_iff]
      exact or_congr_right ih

theorem has_testsDir (h : Reads args f) : f.has .testsDir = fillsPosition args := by
  induction h with
  | nil | separator | last => rfl
  | @group g args e f hg hargs ih =>
      have hcons : Filled.has (e :: f) .testsDir = (decide (e.1 = .testsDir) || f.has .testsDir) :=
        List.any_cons
      rw [hg.fillsPosition_append, hcons, ih]

end Reads

end Conformance
