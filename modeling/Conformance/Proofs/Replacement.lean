import Conformance.Proofs.Decoding

/-!
# Malformed parts

Any bytes are characters and malformed parts, one after the other.  A malformed part stands where no
character begins; it is as much of the bytes as a character could begin with, and a single byte if
that is nothing.  `Decodes` reads bytes in this way, with a replacement character for each malformed
part, and `decodeLossy` gives what it reads.  A byte below 0x80 is no part of a longer character, so
what stands before it and what stands behind it are read apart.
-/

namespace Conformance

namespace Text

namespace Utf8

/-- The bytes begin a character and do not complete it. -/
def IsBeginning (part : Bytes) : Prop :=
  ∃ n more, more ≠ [] ∧ Encodes n (part ++ more)

/-- The malformed part that stands before `rest`. -/
structure IsMalformedPart (part rest : Bytes) : Prop where
  ne_nil : part ≠ []
  no_character (n : Nat) (bytes : Bytes) : Encodes n bytes → ¬ bytes <+: part ++ rest
  begins : part.length = 1 ∨ IsBeginning part
  longest (other : Bytes) : other <+: part ++ rest → IsBeginning other →
    other.length ≤ part.length

/-- The text that bytes are read as. -/
inductive Decodes : Bytes → List Char → Prop
  | nil : Decodes [] []
  | character {n : Nat} {bytes rest : Bytes} {s : List Char} (hbytes : Encodes n bytes)
      (hrest : Decodes rest s) : Decodes (bytes ++ rest) (Char.ofNat n :: s)
  | malformed {part rest : Bytes} {s : List Char} (hpart : IsMalformedPart part rest)
      (hrest : Decodes rest s) : Decodes (part ++ rest) (replacement :: s)

variable {b : UInt8} {n : Nat} {bytes rest part more pending xs ys : Bytes} {u : Unfinished}
  {s : List Char}

theorem Encodes.ne_nil (h : Encodes n bytes) : bytes ≠ [] := by
  cases h <;> simp

/-- No more than one malformed part stands at a place. -/
theorem IsMalformedPart.unique {other others : Bytes} (hpart : IsMalformedPart part rest)
    (hother : IsMalformedPart other others) (heq : part ++ rest = other ++ others) :
    part = other := by
  have hle {v w v' w' : Bytes} (hv : IsMalformedPart v v') (hw : IsMalformedPart w w')
      (hvw : v ++ v' = w ++ w') : v.length ≤ w.length := by
    rcases hv.begins with hone | hbegins
    · rw [hone]
      exact List.length_pos_iff.mpr hw.ne_nil
    · exact hw.longest v (hvw ▸ List.prefix_append v v') hbegins
  have hlength : part.length = other.length :=
    Nat.le_antisymm (hle hpart hother heq) (hle hother hpart heq.symm)
  exact (List.append_inj heq hlength).1

/-! ## What has been read before -/

namespace Decoder

variable {read older : List (Option Char)} {d : Decoder}

/-- The same decoder with more that was read before. -/
def onto (older : List (Option Char)) (d : Decoder) : Decoder :=
  ⟨d.read ++ older, d.unfinished⟩

theorem first_onto (older read : List (Option Char)) (b : UInt8) :
    first (read ++ older) b = (first read b).onto older := by
  simp only [first, apply_ite (onto older)]
  rfl

theorem push_onto (older : List (Option Char)) (d : Decoder) (b : UInt8) :
    (d.onto older).push b = (d.push b).onto older := by
  obtain ⟨read, _ | u⟩ := d
  · exact first_onto older read b
  · simp only [push, onto]
    split
    · split <;> rfl
    · exact first_onto older (none :: read) b

theorem foldl_push_onto (older : List (Option Char)) (d : Decoder) (bytes : Bytes) :
    bytes.foldl push (d.onto older) = (bytes.foldl push d).onto older := by
  induction bytes generalizing d with
  | nil => rfl
  | cons b bytes ih => rw [List.foldl_cons, push_onto, ih, List.foldl_cons]

theorem finish_onto (older : List (Option Char)) (d : Decoder) :
    (d.onto older).finish = older.reverse ++ d.finish := by
  obtain ⟨read, _ | u⟩ := d <;> simp [finish, onto]

/-- From the boundary of a character on, the bytes are read as they are from the start. -/
theorem finish_foldl_push (read : List (Option Char)) (bytes : Bytes) :
    (bytes.foldl push ⟨read, none⟩).finish = read.reverse ++ parts bytes := by
  have honto : (⟨read, none⟩ : Decoder) = start.onto read := rfl
  rw [honto, foldl_push_onto, finish_onto, parts]

theorem suffix_read_foldl_push (d : Decoder) (bytes : Bytes) :
    d.read <:+ (bytes.foldl push d).read := by
  have honto : bytes.foldl push d = (bytes.foldl push ⟨[], d.unfinished⟩).onto d.read :=
    foldl_push_onto d.read ⟨[], d.unfinished⟩ bytes
  rw [honto]
  exact List.suffix_append _ _

/-- Where the decoder stands can be reached from the boundary of a character. -/
def Stands (d : Decoder) : Prop := ∃ pending, Awaits pending d.unfinished

theorem stands_first (read : List (Option Char)) (b : UInt8) : (first read b).Stands := by
  rcases first_cases read b with hb | ⟨-, hb⟩ | ⟨u, hu, hb⟩
  · rw [hb]
    exact ⟨[], .boundary⟩
  · rw [hb]
    exact ⟨[], .boundary⟩
  · rw [hb]
    exact ⟨[b], hu⟩

theorem Stands.push (hd : d.Stands) (b : UInt8) : (d.push b).Stands := by
  obtain ⟨read, _ | u⟩ := d
  · exact stands_first read b
  obtain ⟨pending, hpending⟩ := hd
  by_cases hb : u.least ≤ b ∧ b ≤ u.greatest
  · by_cases howed : u.owed ≤ 1
    · simp only [Decoder.push, hb, howed, and_self, if_true]
      exact ⟨[], .boundary⟩
    · simp only [Decoder.push, hb, howed, and_self, if_true, if_false]
      exact ⟨pending ++ [b], hpending.goesOn hb howed⟩
  · simp only [Decoder.push, hb, if_false]
    exact stands_first (none :: read) b

theorem stands_foldl_push (hd : d.Stands) (bytes : Bytes) : (bytes.foldl Decoder.push d).Stands := by
  induction bytes generalizing d with
  | nil => exact hd
  | cons b bytes ih => exact ih (hd.push b)

/-- A byte below 0x80 ends whatever was begun before it and is a character of its own. -/
theorem push_of_lt (hd : d.Stands) (hb : b.toNat < 0x80) :
    d.push b = ⟨some (Char.ofNat b.toNat) :: d.finish.reverse, none⟩ := by
  have hfirst (read : List (Option Char)) :
      first read b = ⟨some (Char.ofNat b.toNat) :: read, none⟩ := by
    simp only [first, hb, if_true]
  obtain ⟨read, _ | u⟩ := d
  · simp only [push, hfirst, finish, List.reverse_reverse]
  · obtain ⟨pending, hpending⟩ := hd
    have hbelow : ¬ (u.least ≤ b ∧ b ≤ u.greatest) := by
      intro hin
      have hleast := hpending.bounds.1
      have hle := UInt8.le_iff_toNat_le.mp hin.1
      omega
    simp only [push, hbelow, if_false, hfirst, finish, List.reverse_reverse]

end Decoder

theorem parts_append_cons (xs ys : Bytes) (hb : b.toNat < 0x80) :
    parts (xs ++ b :: ys) = parts xs ++ some (Char.ofNat b.toNat) :: parts ys := by
  have hstands : (xs.foldl Decoder.push Decoder.start).Stands :=
    Decoder.stands_foldl_push ⟨[], .boundary⟩ xs
  rw [parts, List.foldl_append, List.foldl_cons, Decoder.push_of_lt hstands hb,
    Decoder.finish_foldl_push, List.reverse_cons, List.reverse_reverse, List.append_assoc, parts]
  rfl

theorem decodeLossy_append_cons (xs ys : Bytes) (hb : b.toNat < 0x80) :
    decodeLossy (xs ++ b :: ys) =
      decodeLossy xs ++ Char.ofNat b.toNat :: decodeLossy ys := by
  rw [decodeLossy, parts_append_cons xs ys hb, List.map_append, List.map_cons]
  rfl

theorem decodeLossy_encode (s : List Char) : decodeLossy (encode s) = s := by
  rw [decodeLossy, parts_encode]
  simp [List.map_map, Function.comp_def]

/-! ## Characters and malformed parts -/

theorem parts_append_of_encodes (hbytes : Encodes n bytes) (rest : Bytes) :
    parts (bytes ++ rest) = some (Char.ofNat n) :: parts rest := by
  rw [parts, List.foldl_append, Decoder.start, Decoder.foldl_push_of_encodes [] hbytes,
    Decoder.finish_foldl_push]
  rfl

/-- What begins a character is read without a malformed part, and what is read of it is that
character at most. -/
theorem Encodes.read_suffix (h : Encodes n (xs ++ ys)) :
    (xs.foldl Decoder.push Decoder.start).read <:+ [some (Char.ofNat n)] := by
  have hall := Decoder.foldl_push_of_encodes [] h
  rw [List.foldl_append] at hall
  have hsuffix := Decoder.suffix_read_foldl_push (xs.foldl Decoder.push Decoder.start) ys
  rw [Decoder.start, hall] at hsuffix
  exact hsuffix

/-- Where something malformed has been read, no character was begun. -/
theorem not_encodes_of_none_mem (hread : none ∈ (xs.foldl Decoder.push Decoder.start).read)
    (n : Nat) (ys : Bytes) : ¬ Encodes n (xs ++ ys) := by
  intro h
  have hmem := h.read_suffix.subset hread
  simp at hmem

theorem Awaits.isBeginning (h : Awaits pending (some u)) : IsBeginning pending := by
  cases h with
  | oneOfTwo ha hleast =>
      exact ⟨_, [_], by simp, .two ha (Nat.zero_lt_succ _) hleast⟩
  | @oneOfThree a ha =>
      have hb : (if a = 0 then 0x20 else 0) < 0x40 := by split <;> decide
      refine ⟨_, [_, _], by simp, .three ha hb (Nat.zero_lt_succ _) ?_ ?_⟩
      · intro hzero
        simp [hzero]
      · intro hlast
        simp [hlast]
  | twoOfThree ha hb hleast hgreatest =>
      exact ⟨_, [_], by simp, .three ha hb (Nat.zero_lt_succ _) hleast hgreatest⟩
  | @oneOfFour a ha =>
      have hb : (if a = 0 then 0x10 else 0) < 0x40 := by split <;> decide
      refine ⟨_, [_, _, _], by simp,
        .four ha hb (Nat.zero_lt_succ _) (Nat.zero_lt_succ _) ?_ ?_⟩
      · intro hzero
        simp [hzero]
      · intro hlast
        simp [hlast]
  | twoOfFour ha hb hleast hgreatest =>
      exact ⟨_, [_, _], by simp,
        .four ha hb (Nat.zero_lt_succ _) (Nat.zero_lt_succ _) hleast hgreatest⟩
  | threeOfFour ha hb hc hleast hgreatest =>
      exact ⟨_, [_], by simp, .four ha hb hc (Nat.zero_lt_succ _) hleast hgreatest⟩

namespace Awaits

theorem foldl_push (h : Awaits pending (some u)) (read : List (Option Char)) :
    pending.foldl Decoder.push ⟨read, none⟩ = ⟨read, some u⟩ := by
  cases h with
  | oneOfTwo ha hleast =>
      rw [List.foldl_cons, Decoder.push_start, Decoder.first_two read ha hleast, List.foldl_nil]
  | oneOfThree ha =>
      rw [List.foldl_cons, Decoder.push_start, Decoder.first_three read ha, List.foldl_nil]
  | twoOfThree ha hb hleast hgreatest =>
      rw [List.foldl_cons, Decoder.push_start, List.foldl_cons,
        Decoder.push_second_of_three read ha hb hleast hgreatest, List.foldl_nil]
  | oneOfFour ha =>
      rw [List.foldl_cons, Decoder.push_start, Decoder.first_four read ha, List.foldl_nil]
  | twoOfFour ha hb hleast hgreatest =>
      rw [List.foldl_cons, Decoder.push_start, List.foldl_cons,
        Decoder.push_second_of_four read ha hb hleast hgreatest, List.foldl_nil]
  | threeOfFour ha hb hc hleast hgreatest =>
      rw [List.foldl_cons, Decoder.push_start, List.foldl_cons,
        Decoder.push_second_of_four read ha hb hleast hgreatest, List.foldl_cons,
        Decoder.push_tail read (by simp) (by simp; omega), if_neg (by simp), List.foldl_nil]
      rfl

/-- A byte that is not awaited does not go on with the character. -/
theorem not_encodes (h : Awaits pending (some u)) (hb : ¬ (u.least ≤ b ∧ b ≤ u.greatest))
    (n : Nat) (ys : Bytes) : ¬ Encodes n (pending ++ b :: ys) := by
  have hpush : (pending ++ [b]).foldl Decoder.push Decoder.start =
      [b].foldl Decoder.push ⟨[none], none⟩ := by
    rw [List.foldl_append, Decoder.start, h.foldl_push []]
    simp only [List.foldl_cons, List.foldl_nil, Decoder.push, hb, if_false]
  have hread : none ∈ ((pending ++ [b]).foldl Decoder.push Decoder.start).read := by
    rw [hpush]
    exact (Decoder.suffix_read_foldl_push ⟨[none], none⟩ [b]).subset List.mem_cons_self
  have hnot := not_encodes_of_none_mem hread n ys
  rwa [List.append_assoc, List.singleton_append] at hnot

theorem not_encodes_append (h : Awaits (bytes ++ more) (some u)) (n : Nat) :
    ¬ Encodes n bytes := by
  intro hbytes
  have hsuffix := Decoder.suffix_read_foldl_push (bytes.foldl Decoder.push Decoder.start) more
  rw [← List.foldl_append, Decoder.start, h.foldl_push [],
    Decoder.foldl_push_of_encodes [] hbytes] at hsuffix
  simp at hsuffix

theorem isMalformedPart (h : Awaits pending (some u))
    (hrest : ∀ b, rest.head? = some b → ¬ (u.least ≤ b ∧ b ≤ u.greatest)) :
    IsMalformedPart pending rest := by
  have hnext {b : UInt8} {ys : Bytes} (hys : pending ++ b :: ys <+: pending ++ rest) (n : Nat)
      (zs : Bytes) : ¬ Encodes n (pending ++ b :: zs) := by
    obtain ⟨zs', hrest'⟩ := (List.prefix_append_right_inj pending).mp hys
    exact h.not_encodes (hrest b (by rw [← hrest']; rfl)) n zs
  refine ⟨?_, ?_, .inr h.isBeginning, ?_⟩
  · rintro rfl
    cases h
  · intro n bytes hbytes hprefix
    rcases List.prefix_or_prefix_of_prefix hprefix (List.prefix_append pending rest) with
      ⟨more, hmore⟩ | ⟨more, rfl⟩
    · exact (hmore ▸ h).not_encodes_append n hbytes
    · cases more with
      | nil =>
          rw [List.append_nil] at hbytes
          have hwhole : Awaits (pending ++ []) (some u) := by rwa [List.append_nil]
          exact hwhole.not_encodes_append n hbytes
      | cons b more => exact hnext hprefix n more hbytes
  · intro other hother hbegins
    refine Nat.le_of_not_lt fun hlonger => ?_
    obtain ⟨more, rfl⟩ := List.prefix_of_prefix_length_le (List.prefix_append pending rest) hother
      (Nat.le_of_lt hlonger)
    obtain ⟨n, last, -, hlast⟩ := hbegins
    cases more with
    | nil => simp at hlonger
    | cons b more =>
        rw [List.append_assoc, List.cons_append] at hlast
        exact hnext hother n (more ++ last) hlast

end Awaits

theorem isMalformedPart_singleton (hb : Decoder.first [] b = ⟨[none], none⟩) (rest : Bytes) :
    IsMalformedPart [b] rest := by
  have hread : none ∈ ([b].foldl Decoder.push Decoder.start).read := by
    rw [List.foldl_cons, Decoder.start, Decoder.push_start, hb]
    exact List.mem_cons_self
  have hnot (n : Nat) (ys : Bytes) : ¬ Encodes n (b :: ys) := not_encodes_of_none_mem hread n ys
  refine ⟨List.cons_ne_nil b [], ?_, .inl rfl, ?_⟩
  · intro n bytes hbytes hprefix
    obtain ⟨c, ys, rfl⟩ := List.exists_cons_of_ne_nil hbytes.ne_nil
    obtain ⟨rfl, -⟩ := List.cons_prefix_cons.mp hprefix
    exact hnot n ys hbytes
  · intro other hother hbegins
    obtain ⟨n, last, -, hlast⟩ := hbegins
    cases other with
    | nil => exact Nat.zero_le _
    | cons c other =>
        obtain ⟨rfl, -⟩ := List.cons_prefix_cons.mp hother
        exact absurd hlast (hnot n (other ++ last))

/-- From where a character is begun the bytes complete it, or what there is of it is a malformed part
and they are read anew behind it. -/
theorem Awaits.completes_or_malformed (h : Awaits pending (some u)) (read : List (Option Char))
    (bytes : Bytes) :
    (∃ n more rest, bytes = more ++ rest ∧ Encodes n (pending ++ more)) ∨
      ∃ more rest, bytes = more ++ rest ∧ IsMalformedPart (pending ++ more) rest ∧
        (bytes.foldl Decoder.push ⟨read, some u⟩).finish =
          (rest.foldl Decoder.push ⟨none :: read, none⟩).finish := by
  induction bytes generalizing pending u with
  | nil =>
      right
      refine ⟨[], [], rfl, ?_, rfl⟩
      rw [List.append_nil]
      exact h.isMalformedPart (by simp)
  | cons b bytes ih =>
      by_cases hb : u.least ≤ b ∧ b ≤ u.greatest
      · by_cases howed : u.owed ≤ 1
        · left
          exact ⟨_, [b], bytes, rfl, h.encodes hb howed⟩
        · have hnext := h.goesOn hb howed
          have hpush : Decoder.push ⟨read, some u⟩ b =
              ⟨read, some ⟨u.owed - 1, 0x80, 0xBF, u.bits * 64 + (b.toNat - 0x80)⟩⟩ := by
            simp only [Decoder.push, hb, howed, and_self, if_true, if_false]
          rcases ih hnext with ⟨n, more, rest, rfl, hmore⟩ | ⟨more, rest, rfl, hmore, hfinish⟩
          · left
            refine ⟨n, b :: more, rest, rfl, ?_⟩
            rwa [List.append_assoc, List.singleton_append] at hmore
          · right
            refine ⟨b :: more, rest, rfl, ?_, ?_⟩
            · rwa [List.append_assoc, List.singleton_append] at hmore
            · rw [List.foldl_cons, hpush, hfinish]
      · right
        refine ⟨[], b :: bytes, rfl, ?_, ?_⟩
        · rw [List.append_nil]
          refine h.isMalformedPart fun c hc => ?_
          rwa [← Option.some.inj hc]
        · have hpush : Decoder.push ⟨read, some u⟩ b = Decoder.push ⟨none :: read, none⟩ b := by
            simp only [Decoder.push, hb, if_false]
          rw [List.foldl_cons, hpush, List.foldl_cons]

/-- Any bytes begin with a character or with a malformed part. -/
theorem parts_cases (hbytes : bytes ≠ []) :
    (∃ n first rest, bytes = first ++ rest ∧ Encodes n first) ∨
      ∃ part rest, bytes = part ++ rest ∧ IsMalformedPart part rest ∧
        parts bytes = none :: parts rest := by
  obtain ⟨b, bytes, rfl⟩ := List.exists_cons_of_ne_nil hbytes
  have hparts : parts (b :: bytes) = (bytes.foldl Decoder.push (Decoder.first [] b)).finish := rfl
  rcases Decoder.first_cases [] b with hb | ⟨hb, -⟩ | ⟨u, hu, hb⟩
  · right
    refine ⟨[b], bytes, rfl, isMalformedPart_singleton hb bytes, ?_⟩
    rw [hparts, hb, Decoder.finish_foldl_push]
    rfl
  · left
    exact ⟨_, [b], bytes, rfl, hb⟩
  · rcases hu.completes_or_malformed [] bytes with
      ⟨n, more, rest, rfl, hmore⟩ | ⟨more, rest, rfl, hmore, hfinish⟩
    · left
      exact ⟨n, [b] ++ more, rest, rfl, hmore⟩
    · right
      refine ⟨[b] ++ more, rest, rfl, hmore, ?_⟩
      rw [hparts, hb, hfinish, Decoder.finish_foldl_push]
      rfl

theorem decodeLossy_append_of_encodes (hbytes : Encodes n bytes) (rest : Bytes) :
    decodeLossy (bytes ++ rest) = Char.ofNat n :: decodeLossy rest := by
  rw [decodeLossy, parts_append_of_encodes hbytes]
  rfl

theorem decodeLossy_append_of_isMalformedPart (hpart : IsMalformedPart part rest) :
    decodeLossy (part ++ rest) = replacement :: decodeLossy rest := by
  have hne : part ++ rest ≠ [] := by simp [hpart.ne_nil]
  rcases parts_cases hne with ⟨n, first, others, heq, hfirst⟩ | ⟨other, others, heq, hother, hparts⟩
  · exact absurd (heq ▸ List.prefix_append first others) (hpart.no_character n first hfirst)
  · obtain rfl := hpart.unique hother heq
    obtain rfl := List.append_cancel_left heq
    rw [decodeLossy, hparts]
    rfl

theorem decodes_decodeLossy (bytes : Bytes) : Decodes bytes (decodeLossy bytes) := by
  by_cases hbytes : bytes = []
  · rw [hbytes]
    exact .nil
  rcases parts_cases hbytes with ⟨n, first, rest, heq, hfirst⟩ | ⟨part, rest, heq, hpart, -⟩
  · have hlength : 0 < first.length := List.length_pos_iff.mpr hfirst.ne_nil
    rw [heq, decodeLossy_append_of_encodes hfirst]
    exact .character hfirst (decodes_decodeLossy rest)
  · have hlength : 0 < part.length := List.length_pos_iff.mpr hpart.ne_nil
    rw [heq, decodeLossy_append_of_isMalformedPart hpart]
    exact .malformed hpart (decodes_decodeLossy rest)
termination_by bytes.length
decreasing_by
  all_goals
    rw [heq, List.length_append]
    omega

theorem decodes_iff : Decodes bytes s ↔ decodeLossy bytes = s := by
  constructor
  · intro h
    induction h with
    | nil => rfl
    | character hbytes _ ih => rw [decodeLossy_append_of_encodes hbytes, ih]
    | malformed hpart _ ih => rw [decodeLossy_append_of_isMalformedPart hpart, ih]
  · rintro rfl
    exact decodes_decodeLossy bytes

end Utf8

end Text

end Conformance
