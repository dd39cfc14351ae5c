import Conformance.Proofs.Utf8

/-!
# What is decoded was encoded

Between two bytes the decoder has read whole characters and stands at some point of the next one.
`Awaits` lists these points with the bytes that lead to them.  So bytes without a malformed part are
the encoding of the characters that are read from them, and a character of one byte is read only
where this byte stands.
-/

namespace Conformance

namespace Text

namespace Utf8

/-- The bytes lead from the boundary of a character to where the decoder stands. -/
inductive Awaits : Bytes → Option Unfinished → Prop
  | boundary : Awaits [] none
  | oneOfTwo {a : Nat} (ha : a < 0x20) (hleast : 2 ≤ a) :
      Awaits [UInt8.ofNat (a + 0xC0)] (some ⟨1, 0x80, 0xBF, a⟩)
  | oneOfThree {a : Nat} (ha : a < 0x10) :
      Awaits [UInt8.ofNat (a + 0xE0)]
        (some ⟨2, if a = 0 then 0xA0 else 0x80, if a = 0x0D then 0x9F else 0xBF, a⟩)
  | twoOfThree {a b : Nat} (ha : a < 0x10) (hb : b < 0x40) (hleast : a = 0 → 0x20 ≤ b)
      (hgreatest : a = 0x0D → b < 0x20) :
      Awaits [UInt8.ofNat (a + 0xE0), UInt8.ofNat (b + 0x80)]
        (some ⟨1, 0x80, 0xBF, a * 64 + b⟩)
  | oneOfFour {a : Nat} (ha : a < 5) :
      Awaits [UInt8.ofNat (a + 0xF0)]
        (some ⟨3, if a = 0 then 0x90 else 0x80, if a = 4 then 0x8F else 0xBF, a⟩)
  | twoOfFour {a b : Nat} (ha : a < 5) (hb : b < 0x40) (hleast : a = 0 → 0x10 ≤ b)
      (hgreatest : a = 4 → b < 0x10) :
      Awaits [UInt8.ofNat (a + 0xF0), UInt8.ofNat (b + 0x80)]
        (some ⟨2, 0x80, 0xBF, a * 64 + b⟩)
  | threeOfFour {a b c : Nat} (ha : a < 5) (hb : b < 0x40) (hc : c < 0x40)
      (hleast : a = 0 → 0x10 ≤ b) (hgreatest : a = 4 → b < 0x10) :
      Awaits [UInt8.ofNat (a + 0xF0), UInt8.ofNat (b + 0x80), UInt8.ofNat (c + 0x80)]
        (some ⟨1, 0x80, 0xBF, (a * 64 + b) * 64 + c⟩)

variable {b : UInt8} {n : Nat} {bytes pending : Bytes} {u : Unfinished} {c : Char}
  {s : List Char}

theorem Encodes.toNat_ofNat (h : Encodes n bytes) : (Char.ofNat n).toNat = n := by
  have hvalid : n.isValidChar := by
    unfold Nat.isValidChar
    cases h <;> omega
  unfold Char.ofNat
  rw [dif_pos hvalid]
  rfl

/-- The forms cover different numbers, and in each of them a number has one place. -/
theorem Encodes.unique {other : Bytes} (h : Encodes n bytes) (h' : Encodes n other) :
    bytes = other := by
  generalize hm : n = m at h'
  cases h with
  | one ha =>
      cases h' with
      | one ha' => rw [hm]
      | two ha' hb' _ => omega
      | three ha' hb' hc' _ _ => omega
      | four ha' hb' hc' hd' _ _ => omega
  | @two a b ha hb _ =>
      cases h' with
      | one ha' => omega
      | @two a' b' ha' hb' _ =>
          obtain ⟨rfl, rfl⟩ : a = a' ∧ b = b' := by omega
          rfl
      | three ha' hb' hc' _ _ => omega
      | four ha' hb' hc' hd' _ _ => omega
  | @three a b c ha hb hc _ _ =>
      cases h' with
      | one ha' => omega
      | two ha' hb' _ => omega
      | @three a' b' c' ha' hb' hc' _ _ =>
          obtain ⟨rfl, rfl, rfl⟩ : a = a' ∧ b = b' ∧ c = c' := by omega
          rfl
      | four ha' hb' hc' hd' _ _ => omega
  | @four a b c d ha hb hc hd _ _ =>
      cases h' with
      | one ha' => omega
      | two ha' hb' _ => omega
      | three ha' hb' hc' _ _ => omega
      | @four a' b' c' d' ha' hb' hc' hd' _ _ =>
          obtain ⟨rfl, rfl, rfl, rfl⟩ : a = a' ∧ b = b' ∧ c = c' ∧ d = d' := by omega
          rfl

/-- What completes a character is the encoding of one. -/
theorem encode_append_of_encodes (h : Encodes n (pending ++ [b])) :
    encode (s ++ [Char.ofNat n]) = encode s ++ pending ++ [b] := by
  have hchar := encodes_encodeChar (Char.ofNat n)
  rw [h.toNat_ofNat] at hchar
  rw [encode_append, encode_cons, hchar.unique h]
  simp [encode]

theorem ofNat_sub_add_mark (mark : Nat) (hmark : mark ≤ b.toNat) :
    UInt8.ofNat (b.toNat - mark + mark) = b := by
  rw [Nat.sub_add_cancel hmark, UInt8.ofNat_toNat]

namespace Awaits

theorem bounds (h : Awaits pending (some u)) :
    0x80 ≤ u.least.toNat ∧ u.greatest.toNat ≤ 0xBF := by
  cases h with
  | oneOfTwo ha _ => simp
  | oneOfThree ha =>
      dsimp only
      constructor <;> split <;> decide
  | twoOfThree ha hb _ _ => simp
  | oneOfFour ha =>
      dsimp only
      constructor <;> split <;> decide
  | twoOfFour ha hb _ _ => simp
  | threeOfFour ha hb hc _ _ => simp

/-- An awaited byte is its six bits with the mark. -/
theorem exists_tail (h : Awaits pending (some u)) (hin : u.least ≤ b ∧ b ≤ u.greatest) :
    ∃ k < 0x40, b = UInt8.ofNat (k + 0x80) ∧ b.toNat = k + 0x80 := by
  obtain ⟨hlow, hhigh⟩ := h.bounds
  obtain ⟨hleast, hgreatest⟩ := hin
  rw [UInt8.le_iff_toNat_le] at hleast hgreatest
  refine ⟨b.toNat - 0x80, by omega, (ofNat_sub_add_mark 0x80 (by omega)).symm, by omega⟩

/-- The last byte that is awaited completes a character. -/
theorem encodes (h : Awaits pending (some u)) (hin : u.least ≤ b ∧ b ≤ u.greatest)
    (howed : u.owed ≤ 1) :
    Encodes (u.bits * 64 + (b.toNat - 0x80)) (pending ++ [b]) := by
  obtain ⟨k, hk, hbyte, hbits⟩ := h.exists_tail hin
  rw [hbits, hbyte, Nat.add_sub_cancel]
  cases h with
  | oneOfTwo ha hleast => exact .two ha hk hleast
  | oneOfThree ha => simp at howed
  | twoOfThree ha hb hleast hgreatest => exact .three ha hb hk hleast hgreatest
  | oneOfFour ha => simp at howed
  | twoOfFour ha hb _ _ => simp at howed
  | threeOfFour ha hb hc hleast hgreatest => exact .four ha hb hc hk hleast hgreatest

/-- Any other byte that is awaited leads on. -/
theorem goesOn (h : Awaits pending (some u)) (hin : u.least ≤ b ∧ b ≤ u.greatest)
    (howed : ¬ u.owed ≤ 1) :
    Awaits (pending ++ [b])
      (some ⟨u.owed - 1, 0x80, 0xBF, u.bits * 64 + (b.toNat - 0x80)⟩) := by
  obtain ⟨k, hk, hbyte, hbits⟩ := h.exists_tail hin
  rw [UInt8.le_iff_toNat_le, UInt8.le_iff_toNat_le, hbits] at hin
  rw [hbits, hbyte, Nat.add_sub_cancel]
  obtain ⟨hleast, hgreatest⟩ := hin
  cases h with
  | oneOfTwo ha _ => simp at howed
  | oneOfThree ha =>
      refine .twoOfThree ha hk (fun hzero => ?_) (fun hlast => ?_)
      · simp [hzero] at hleast
        omega
      · simp [hlast] at hgreatest
        omega
  | twoOfThree ha hb _ _ => simp at howed
  | oneOfFour ha =>
      refine .twoOfFour ha hk (fun hzero => ?_) (fun hlast => ?_)
      · simp [hzero] at hleast
        omega
      · simp [hlast] at hgreatest
        omega
  | twoOfFour ha hb hleast' hgreatest' => exact .threeOfFour ha hb hk hleast' hgreatest'
  | threeOfFour ha hb hc _ _ => simp at howed

end Awaits

namespace Decoder

variable {read : List (Option Char)} {d : Decoder}

/-- Where nothing was malformed, the bytes are the encoding of what was read and the beginning of
the character that is being read. -/
def Reads (bytes : Bytes) (d : Decoder) : Prop :=
  ∀ s : List Char, d.read = (s.map some).reverse →
    ∃ pending, bytes = encode s ++ pending ∧ Awaits pending d.unfinished

theorem reads_start : Reads [] start := by
  intro s hs
  obtain rfl : s = [] := by simpa [start] using hs
  exact ⟨[], rfl, .boundary⟩

theorem reads_malformed (bytes : Bytes) (read : List (Option Char)) (v : Option Unfinished) :
    Reads bytes ⟨none :: read, v⟩ := by
  intro s hs
  have hmem : none ∈ (s.map some).reverse := by
    rw [← hs]
    exact List.mem_cons_self
  simp at hmem

theorem Reads.completed (hd : Reads bytes d)
    (hb : ∀ pending, Awaits pending d.unfinished → Encodes n (pending ++ [b])) :
    Reads (bytes ++ [b]) ⟨some (Char.ofNat n) :: d.read, none⟩ := by
  intro s hs
  rcases List.eq_nil_or_concat s with rfl | ⟨t, c, rfl⟩
  · simp at hs
  obtain ⟨rfl, hread⟩ : Char.ofNat n = c ∧ d.read = (t.map some).reverse := by simpa using hs
  obtain ⟨pending, rfl, hpending⟩ := hd t hread
  refine ⟨[], ?_, .boundary⟩
  rw [List.concat_eq_append, encode_append_of_encodes (hb pending hpending), List.append_nil]

theorem Reads.continued {v : Option Unfinished} (hd : Reads bytes d)
    (hb : ∀ pending, Awaits pending d.unfinished → Awaits (pending ++ [b]) v) :
    Reads (bytes ++ [b]) ⟨d.read, v⟩ := by
  intro s hs
  obtain ⟨pending, rfl, hpending⟩ := hd s hs
  exact ⟨pending ++ [b], List.append_assoc .., hb pending hpending⟩

/-- A byte at a boundary is malformed, a whole character or the beginning of one. -/
theorem first_cases (read : List (Option Char)) (b : UInt8) :
    first read b = ⟨none :: read, none⟩ ∨
      (Encodes b.toNat [b] ∧ first read b = ⟨some (Char.ofNat b.toNat) :: read, none⟩) ∨
      ∃ u, Awaits [b] (some u) ∧ first read b = ⟨read, some u⟩ := by
  have hranges : b.toNat < 0x80 ∨ 0x80 ≤ b.toNat ∧ b.toNat < 0xC2 ∨
      0xC2 ≤ b.toNat ∧ b.toNat < 0xE0 ∨ 0xE0 ≤ b.toNat ∧ b.toNat < 0xF0 ∨
      0xF0 ≤ b.toNat ∧ b.toNat < 0xF5 ∨ 0xF5 ≤ b.toNat := by omega
  rcases hranges with hone | ⟨_, _⟩ | ⟨hlow, _⟩ | ⟨hlow, _⟩ | ⟨hlow, _⟩ | _
  · right; left
    rw [← UInt8.ofNat_toNat (x := b), toNat_ofNat_of_lt b.toNat_lt]
    exact ⟨.one hone, first_one read hone⟩
  · left
    rw [first]
    grind
  · right; right
    rw [← ofNat_sub_add_mark (b := b) 0xC0 (by omega)]
    exact ⟨_, .oneOfTwo (by omega) (by omega), first_two read (by omega) (by omega)⟩
  · right; right
    rw [← ofNat_sub_add_mark _ hlow]
    exact ⟨_, .oneOfThree (by omega), first_three read (by omega)⟩
  · right; right
    rw [← ofNat_sub_add_mark _ hlow]
    exact ⟨_, .oneOfFour (by omega), first_four read (by omega)⟩
  · left
    rw [first]
    grind

theorem Reads.first (hd : Reads bytes ⟨read, none⟩) (b : UInt8) :
    Reads (bytes ++ [b]) (Decoder.first read b) := by
  rcases first_cases read b with hb | ⟨hb, heq⟩ | ⟨u, hb, heq⟩
  · rw [hb]
    exact reads_malformed _ _ _
  · rw [heq]
    refine hd.completed fun pending hpending => ?_
    cases hpending
    exact hb
  · rw [heq]
    refine hd.continued fun pending hpending => ?_
    cases hpending
    exact hb

theorem Reads.push (hd : Reads bytes d) (b : UInt8) : Reads (bytes ++ [b]) (d.push b) := by
  obtain ⟨read, _ | u⟩ := d
  · exact hd.first b
  rw [Decoder.push]
  by_cases hb : u.least ≤ b ∧ b ≤ u.greatest
  · simp only [hb, and_self, if_true]
    split
    case isTrue howed => exact hd.completed fun pending hpending => hpending.encodes hb howed
    case isFalse howed => exact hd.continued fun pending hpending => hpending.goesOn hb howed
  · simp only [hb, if_false]
    exact Reads.first (reads_malformed _ _ _) b

theorem Reads.foldl (hd : Reads bytes d) (more : Bytes) :
    Reads (bytes ++ more) (more.foldl Decoder.push d) := by
  induction more generalizing bytes d with
  | nil => simpa using hd
  | cons b more ih => simpa using ih (hd.push b)

theorem reads_foldl (bytes : Bytes) : Reads bytes (bytes.foldl push start) :=
  reads_start.foldl bytes

end Decoder

theorem parts_eq_map_some_iff : parts bytes = s.map some ↔ bytes = encode s := by
  constructor
  · intro hparts
    have hreads := Decoder.reads_foldl bytes
    rw [parts] at hparts
    generalize bytes.foldl Decoder.push Decoder.start = d at hparts hreads
    obtain ⟨read, _ | u⟩ := d
    · obtain ⟨pending, hbytes, hpending⟩ := hreads s (List.reverse_eq_iff.mp hparts)
      cases hpending
      rwa [List.append_nil] at hbytes
    · have hmem : none ∈ s.map some := by
        rw [← hparts, Decoder.finish]
        simp
      simp at hmem
  · rintro rfl
    exact parts_encode s

theorem map_some_filterMap_id {ps : List (Option Char)} (hall : ps.all Option.isSome = true) :
    (ps.filterMap id).map some = ps := by
  induction ps with
  | nil => rfl
  | cons p ps ih =>
      cases p with
      | none => simp at hall
      | some c => simpa using ih (by simpa using hall)

/-- The texts that are decoded are those that are encoded. -/
theorem decode?_eq_some_iff : decode? bytes = some s ↔ bytes = encode s := by
  constructor
  · intro hdecode
    rw [decode?] at hdecode
    split at hdecode
    case isTrue hall =>
      refine parts_eq_map_some_iff.mp ?_
      rw [← Option.some.inj hdecode, map_some_filterMap_id hall]
    case isFalse => cases hdecode
  · rintro rfl
    exact decode?_encode s

theorem decode?_eq_none_iff : decode? bytes = none ↔ ∀ s, bytes ≠ encode s := by
  rw [Option.eq_none_iff_forall_ne_some]
  exact forall_congr' fun s => not_congr decode?_eq_some_iff

/-! ## Characters of one byte -/

theorem encodeChar_ofNat (hn : n < 0x80) :
    String.utf8EncodeChar (Char.ofNat n) = [UInt8.ofNat n] := by
  have hone := Encodes.one hn
  have hchar := encodes_encodeChar (Char.ofNat n)
  rw [hone.toNat_ofNat] at hchar
  exact hchar.unique hone

theorem mem_encode_of_mem (hn : n < 0x80) (hc : Char.ofNat n ∈ s) : UInt8.ofNat n ∈ encode s := by
  refine List.mem_flatMap.mpr ⟨_, hc, ?_⟩
  rw [encodeChar_ofNat hn]
  exact List.mem_singleton_self _

/-- Where such a byte stands last, its character does. -/
theorem exists_of_encode_eq_append (hn : n < 0x80) (hs : encode s = bytes ++ [UInt8.ofNat n]) :
    ∃ t, s = t ++ [Char.ofNat n] ∧ encode t = bytes := by
  rcases List.eq_nil_or_concat s with rfl | ⟨t, c, rfl⟩
  · simp [encode] at hs
  rw [List.concat_eq_append] at hs ⊢
  rw [encode_append, show encode [c] = String.utf8EncodeChar c from List.append_nil _] at hs
  have hlast : UInt8.ofNat n ∈ String.utf8EncodeChar c := by
    have hsome := List.getLast?_eq_some_getLast (String.utf8EncodeChar_ne_nil (c := c))
    have hend := congrArg List.getLast? hs
    rw [List.getLast?_append, hsome, List.getLast?_concat, Option.some_or] at hend
    exact List.mem_of_getLast? (hsome.trans hend)
  have hbyte : (UInt8.ofNat n).toNat = n := toNat_ofNat_of_lt (by omega)
  have hc : n = c.toNat := by
    rw [← hbyte]
    exact (encodes_encodeChar c).toNat_eq_of_mem hlast (by omega)
  obtain rfl : c = Char.ofNat n := by rw [hc, Char.ofNat_toNat]
  rw [encodeChar_ofNat hn] at hs
  exact ⟨t, rfl, List.append_cancel_right hs⟩

theorem decode?_concat (hn : n < 0x80) (bytes : Bytes) :
    decode? (bytes ++ [UInt8.ofNat n]) = (decode? bytes).map (· ++ [Char.ofNat n]) := by
  have hbyte : encode [Char.ofNat n] = [UInt8.ofNat n] := by
    rw [encode_cons, encodeChar_ofNat hn]
    rfl
  refine Option.ext fun s => ?_
  rw [decode?_eq_some_iff, Option.map_eq_some_iff]
  constructor
  · intro hs
    obtain ⟨t, rfl, ht⟩ := exists_of_encode_eq_append hn hs.symm
    exact ⟨t, decode?_eq_some_iff.mpr ht.symm, rfl⟩
  · rintro ⟨t, ht, rfl⟩
    rw [decode?_eq_some_iff.mp ht, encode_append, hbyte]

end Utf8

end Text

end Conformance
