import Conformance.Proofs.Annotation
import Conformance.Report.Rendering
import Conformance.Text.Decimal

/-!
# Texts of one line

A text is a line when it holds no line feed.  Words, numerals, the messages of the system and what
the first line of a file states are lines.  Lines that are written one below the other are found
again where the text is split, and a number is read from the numeral that was written for it.
-/

namespace Conformance

namespace Text

variable {s t : String} {chars : List Char}

/-- The text holds no line feed. -/
def IsLine (s : String) : Prop := '\n' ∉ s.toList

instance : DecidablePred IsLine := fun s => inferInstanceAs (Decidable ('\n' ∉ s.toList))

@[simp] theorem isLine_append : IsLine (s ++ t) ↔ IsLine s ∧ IsLine t := by
  simp [IsLine]

theorem IsLine.append (hs : IsLine s) (ht : IsLine t) : IsLine (s ++ t) :=
  isLine_append.mpr ⟨hs, ht⟩

@[simp] theorem isLine_ofList : IsLine (String.ofList chars) ↔ '\n' ∉ chars := by
  simp [IsLine]

theorem IsWord.isLine (hs : IsWord s.toList) : IsLine s :=
  fun hmem => absurd (hs.not_blank _ hmem) (by decide)

theorem isLine_of_mem_outputLines {raw : String} (hs : s ∈ outputLines raw) : IsLine s :=
  (of_mem_outputLines hs).feed

theorem IsLine.trimEnd (hs : IsLine s) : IsLine (String.ofList (trimEnd s.toList)) := by
  obtain ⟨rest, -, hrest⟩ := exists_trimEnd_append_gap s.toList
  rw [isLine_ofList]
  exact fun hmem => hs (hrest ▸ List.mem_append_left rest hmem)

/-! ## Numerals -/

theorem isWord_toString (n : Nat) : IsWord (toString n).toList := by
  rw [Nat.toString_eq_ofList_toDigits, String.toList_ofList]
  refine ⟨Nat.toDigits_ne_nil, fun c hc => ?_⟩
  have hdigit : c.isDigit = true := Nat.isDigit_of_mem_toDigits (by decide) (by decide) hc
  have hrange : 0x30 ≤ c.toNat ∧ c.toNat ≤ 0x39 := by
    simpa [Char.isDigit, UInt32.le_iff_toNat_le] using hdigit
  simp only [isBlank, Bool.or_eq_false_iff, Bool.and_eq_false_iff, decide_eq_false_iff_not,
    beq_eq_false_iff_ne]
  omega

theorem isWord_toString_int (n : Int) : IsWord (toString n).toList := by
  cases n with
  | ofNat n => exact isWord_toString n
  | negSucc n =>
      have hsign : (toString (Int.negSucc n)).toList = '-' :: (toString (n + 1)).toList := by
        rw [show toString (Int.negSucc n) = "-" ++ toString (n + 1) from rfl, String.toList_append]
        rfl
      rw [hsign]
      refine ⟨List.cons_ne_nil _ _, List.forall_mem_cons.mpr ⟨by decide, ?_⟩⟩
      exact (isWord_toString _).not_blank

theorem isLine_toString_int (n : Int) : IsLine (toString n) :=
  (isWord_toString_int n).isLine

namespace Decimal

theorem digit?_digitChar : ∀ n < 10, digit? n.digitChar = some n := by decide

theorem readFrom_append (high : Nat) (xs ys : List Char) :
    readFrom high (xs ++ ys) = (readFrom high xs).bind fun value => readFrom value ys := by
  induction xs generalizing high with
  | nil => rfl
  | cons c xs ih =>
      simp only [List.cons_append, readFrom, ih]
      cases digit? c <;> rfl

theorem readFrom_toDigits (n : Nat) : readFrom 0 (Nat.toDigits 10 n) = some n := by
  induction n using Nat.strongRecOn with
  | ind n ih =>
      rw [Nat.toDigits_eq_if (by decide)]
      split
      · simp [readFrom, digit?_digitChar n ‹_›]
      · have hlast := digit?_digitChar (n % 10) (Nat.mod_lt n (by decide))
        rw [readFrom_append, ih (n / 10) (by omega), Option.bind_some]
        simp only [readFrom, hlast, Option.bind_some]
        rw [Nat.div_add_mod]

theorem readDigits_toString (n : Nat) : readDigits (toString n).toList = some n := by
  rw [Nat.toString_eq_ofList_toDigits, String.toList_ofList]
  have hread := readFrom_toDigits n
  obtain ⟨c, rest, hdigits⟩ := List.exists_cons_of_ne_nil (Nat.toDigits_ne_nil (n := n) (b := 10))
  rw [hdigits] at hread ⊢
  exact hread

/-- A numeral is read back if its number has at most 64 bits. -/
theorem readWord64_toString {n : Nat} (hn : n < 2 ^ 64) :
    readWord64 (toString n).toList = some n := by
  obtain ⟨c, rest, hdigits⟩ := List.exists_cons_of_ne_nil (isWord_toString n).ne_nil
  have hplus : c ≠ '+' := by
    have hmem : c ∈ (toString n).toList := hdigits ▸ List.mem_cons_self
    rw [Nat.toString_eq_ofList_toDigits, String.toList_ofList] at hmem
    have hdigit : c.isDigit = true := Nat.isDigit_of_mem_toDigits (by decide) (by decide) hmem
    rintro rfl
    exact absurd hdigit (by decide)
  have hread := readDigits_toString n
  rw [hdigits] at hread ⊢
  rw [readWord64, hread]
  · simp [hn]
  · simpa using hplus

end Decimal

/-! ## Lines one below the other -/

theorem splitLines_unlines {lines : List String} (hlines : ∀ line ∈ lines, IsLine line) :
    splitLines (Report.unlines lines).toList = lines.map String.toList ++ [[]] := by
  induction lines with
  | nil => rfl
  | cons line lines ih =>
      have hline : splitLines line.toList = [line.toList] :=
        splitWhen_beq_of_notMem (hlines line List.mem_cons_self)
      have hcons : (Report.unlines (line :: lines)).toList =
          line.toList ++ '\n' :: (Report.unlines lines).toList := by
        rw [show Report.unlines (line :: lines) = line ++ "\n" ++ Report.unlines lines from rfl,
          String.toList_append, String.toList_append, List.append_assoc]
        rfl
      have hrest := ih fun other hother => hlines other (List.mem_cons_of_mem line hother)
      rw [splitLines] at hline hrest ⊢
      rw [hcons, splitWhen_append_cons (by decide), hline, hrest]
      rfl

end Text

open Text

/-! ## Messages of the system -/

theorem Errno.isLine_of_mem_texts : ∀ text ∈ texts, IsLine text := by
  unfold texts
  -- The characters are taken from the literals; to decide the whole would decode their bytes.
  repeat refine List.forall_mem_cons.mpr ⟨isLine_ofList.mpr (by decide), ?_⟩
  exact List.forall_mem_nil _

theorem Errno.isLine_text (e : Errno) : IsLine e.text := by
  rw [text]
  split
  · simp [IsLine]
  split
  · rename_i text htext
    split at htext
    · exact isLine_of_mem_texts text (List.mem_of_getElem? htext)
    · cases htext
  · exact .append (by simp [IsLine]) (isLine_toString_int _)

theorem IoError.isLine_message_os (e : Errno) : IsLine (IoError.os e).message := by
  refine .append (.append (.append e.isLine_text ?_) (isLine_toString_int _)) ?_
  · simp [IsLine]
  · simp [IsLine]

/-- What following a path and reading a file can fail with. -/
inductive IoError.IsOfReading : IoError → Prop
  | os (e : Errno) : IsOfReading (.os e)
  | nulInName : IsOfReading .nulInName

theorem IoError.IsOfReading.isLine_message {cause : IoError} (h : cause.IsOfReading) :
    IsLine cause.message := by
  cases h with
  | os e => exact isLine_message_os e
  | nulInName => decide

namespace FileTree

variable {α β : Type} {P : IoError → Prop}

/-- If there is an error, it is of this kind. -/
def FailsWithin (P : IoError → Prop) (x : Except IoError α) : Prop :=
  ∀ cause, x = .error cause → P cause

theorem failsWithin_ok (P : IoError → Prop) (a : α) : FailsWithin P (.ok a) := by
  rintro cause ⟨⟩

theorem failsWithin_error {cause : IoError} (h : P cause) :
    FailsWithin P (.error cause : Except IoError α) := by
  rintro _ ⟨⟩
  exact h

theorem FailsWithin.bind {x : Except IoError α} {f : α → Except IoError β} (hx : FailsWithin P x)
    (hf : ∀ a, FailsWithin P (f a)) : FailsWithin P (x >>= f) := by
  cases x with
  | error cause => exact failsWithin_error (hx cause rfl)
  | ok a => exact hf a

theorem failsWithin_checkText (path : Path) : FailsWithin IoError.IsOfReading (checkText path) := by
  rw [checkText]
  split
  · exact failsWithin_error .nulInName
  dsimp only
  split
  · exact failsWithin_error (.os _)
  split
  · exact failsWithin_error (.os _)
  · exact failsWithin_ok _ _

theorem failsWithin_lookup (t : FileTree) (dir : Location) (path : Path) (followLast : Bool) :
    FailsWithin IoError.IsOfReading (t.lookup dir path followLast) := by
  refine .bind (.bind (failsWithin_checkText path) fun _ => ?_) fun spot => ?_
  · split
    · exact failsWithin_ok _ _
    · exact failsWithin_error (.os _)
  · split
    · exact failsWithin_ok _ _
    · exact failsWithin_error (.os _)

theorem failsWithin_read (t : FileTree) (dir : Location) (path : Path) :
    FailsWithin IoError.IsOfReading (t.read dir path) := by
  refine .bind (failsWithin_lookup t dir path true) fun found => ?_
  split
  · split
    · exact failsWithin_ok _ _
    · exact failsWithin_error (.os _)
  · exact failsWithin_error (.os _)

/-- If there is an error, its message is a line. -/
def FailsInLine (x : Except IoError α) : Prop :=
  ∀ cause, x = .error cause → IsLine cause.message

theorem failsInLine_ok (a : α) : FailsInLine (.ok a) :=
  failsWithin_ok _ a

theorem FailsInLine.bind {x : Except IoError α} {f : α → Except IoError β} (hx : FailsInLine x)
    (hf : ∀ a, FailsInLine (f a)) : FailsInLine (x >>= f) :=
  FailsWithin.bind hx hf

theorem failsInLine_read (t : FileTree) (dir : Location) (path : Path) :
    FailsInLine (t.read dir path) :=
  fun cause hcause => (failsWithin_read t dir path cause hcause).isLine_message

end FileTree

end Conformance
