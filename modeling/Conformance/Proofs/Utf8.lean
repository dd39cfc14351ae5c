import Conformance.Text.Utf8

/-!
# What is encoded is decoded

`Encodes` lists the four forms of an encoded character.  The decoder reads each of them back and
stands at a boundary again, so decoding undoes encoding; and of two characters the one with the
smaller code point has the smaller bytes, so texts are ordered by their bytes as they are by their
characters.
-/

namespace Conformance

namespace Text

namespace Utf8

/-- The bytes of a character, written with six bits of its code point in each byte but the first.
No form is overlong, and surrogates and what is beyond U+10FFFF have none. -/
inductive Encodes : Nat → Bytes → Prop
  | one {a : Nat} (ha : a < 0x80) : Encodes a [UInt8.ofNat a]
  | two {a b : Nat} (ha : a < 0x20) (hb : b < 0x40) (hleast : 2 ≤ a) :
      Encodes (a * 64 + b) [UInt8.ofNat (a + 0xC0), UInt8.ofNat (b + 0x80)]
  | three {a b c : Nat} (ha : a < 0x10) (hb : b < 0x40) (hc : c < 0x40)
      (hleast : a = 0 → 0x20 ≤ b) (hgreatest : a = 0x0D → b < 0x20) :
      Encodes ((a * 64 + b) * 64 + c)
        [UInt8.ofNat (a + 0xE0), UInt8.ofNat (b + 0x80), UInt8.ofNat (c + 0x80)]
  | four {a b c d : Nat} (ha : a < 5) (hb : b < 0x40) (hc : c < 0x40) (hd : d < 0x40)
      (hleast : a = 0 → 0x10 ≤ b) (hgreatest : a = 4 → b < 0x10) :
      Encodes (((a * 64 + b) * 64 + c) * 64 + d)
        [UInt8.ofNat (a + 0xF0), UInt8.ofNat (b + 0x80), UInt8.ofNat (c + 0x80),
          UInt8.ofNat (d + 0x80)]

theorem encodes_encodeChar (c : Char) : Encodes c.toNat (String.utf8EncodeChar c) := by
  have hvalid : c.toNat < 0xD800 ∨ 0xDFFF < c.toNat ∧ c.toNat < 0x110000 := c.valid
  rw [String.utf8EncodeChar, show c.val.toNat = c.toNat from rfl]
  generalize c.toNat = n at hvalid
  by_cases h₁ : n ≤ 0x7F
  · rw [if_pos h₁]
    exact .one (by omega)
  rw [if_neg h₁]
  by_cases h₂ : n ≤ 0x7FF
  · rw [if_pos h₂]
    have hn : n / 64 % 0x20 * 64 + n % 0x40 = n := by omega
    have h := Encodes.two (a := n / 64 % 0x20) (b := n % 0x40) (by omega) (by omega) (by omega)
    rwa [hn] at h
  rw [if_neg h₂]
  by_cases h₃ : n ≤ 0xFFFF
  · rw [if_pos h₃]
    have hn : (n / 4096 % 0x10 * 64 + n / 64 % 0x40) * 64 + n % 0x40 = n := by omega
    have h := Encodes.three (a := n / 4096 % 0x10) (b := n / 64 % 0x40) (c := n % 0x40)
      (by omega) (by omega) (by omega) (by omega) (by omega)
    rwa [hn] at h
  · rw [if_neg h₃]
    have hn : ((n / 262144 % 0x08 * 64 + n / 4096 % 0x40) * 64 + n / 64 % 0x40) * 64 + n % 0x40
        = n := by omega
    have h := Encodes.four (a := n / 262144 % 0x08) (b := n / 4096 % 0x40) (c := n / 64 % 0x40)
      (d := n % 0x40) (by omega) (by omega) (by omega) (by omega) (by omega) (by omega)
    rwa [hn] at h

variable {s t : List Char}

theorem encode_cons (c : Char) (s : List Char) :
    encode (c :: s) = String.utf8EncodeChar c ++ encode s := rfl

theorem encode_append (s t : List Char) : encode (s ++ t) = encode s ++ encode t :=
  List.flatMap_append

theorem encode_ne_nil (hs : s ≠ []) : encode s ≠ [] := by
  cases s with
  | nil => exact absurd rfl hs
  | cons c s => simp [encode_cons, String.utf8EncodeChar_ne_nil]

theorem toNat_ofNat_of_lt {n : Nat} (hn : n < 0x100) : (UInt8.ofNat n).toNat = n := by
  rw [UInt8.toNat_ofNat']
  omega

/-! ## Decoding -/

namespace Decoder

variable {n : Nat} (read : List (Option Char))

theorem push_start (b : UInt8) : push ⟨read, none⟩ b = first read b := rfl

theorem first_one (hn : n < 0x80) :
    first read (UInt8.ofNat n) = ⟨some (Char.ofNat n) :: read, none⟩ := by
  rw [first, toNat_ofNat_of_lt (by omega), if_pos hn]

theorem first_two (hn : n < 0x20) (hleast : 2 ≤ n) :
    first read (UInt8.ofNat (n + 0xC0)) = ⟨read, some ⟨1, 0x80, 0xBF, n⟩⟩ := by
  rw [first, toNat_ofNat_of_lt (by omega)]
  grind

theorem first_three (hn : n < 0x10) :
    first read (UInt8.ofNat (n + 0xE0)) =
      ⟨read, some ⟨2, if n = 0 then 0xA0 else 0x80, if n = 0x0D then 0x9F else 0xBF, n⟩⟩ := by
  rw [first, toNat_ofNat_of_lt (by omega)]
  grind

theorem first_four (hn : n < 5) :
    first read (UInt8.ofNat (n + 0xF0)) =
      ⟨read, some ⟨3, if n = 0 then 0x90 else 0x80, if n = 4 then 0x8F else 0xBF, n⟩⟩ := by
  rw [first, toNat_ofNat_of_lt (by omega)]
  grind

/-- A continuation byte in its range adds its six bits. -/
theorem push_tail {u : Unfinished} (hleast : u.least.toNat ≤ n + 0x80)
    (hgreatest : n + 0x80 ≤ u.greatest.toNat) :
    push ⟨read, some u⟩ (UInt8.ofNat (n + 0x80)) =
      if u.owed ≤ 1 then ⟨some (Char.ofNat (u.bits * 64 + n)) :: read, none⟩
      else ⟨read, some ⟨u.owed - 1, 0x80, 0xBF, u.bits * 64 + n⟩⟩ := by
  have hbyte : (UInt8.ofNat (n + 0x80)).toNat = n + 0x80 :=
    toNat_ofNat_of_lt (Nat.lt_of_le_of_lt hgreatest u.greatest.toNat_lt)
  simp only [push, UInt8.le_iff_toNat_le, hbyte]
  rw [if_pos ⟨hleast, hgreatest⟩, Nat.add_sub_cancel]

theorem push_second_of_three {a b : Nat} (ha : a < 0x10) (hb : b < 0x40) (hleast : a = 0 → 0x20 ≤ b)
    (hgreatest : a = 0x0D → b < 0x20) :
    push (first read (UInt8.ofNat (a + 0xE0))) (UInt8.ofNat (b + 0x80)) =
      ⟨read, some ⟨1, 0x80, 0xBF, a * 64 + b⟩⟩ := by
  have hlow : (if a = 0 then (0xA0 : UInt8) else 0x80).toNat ≤ b + 0x80 := by
    split <;> simp
    omega
  have hhigh : b + 0x80 ≤ (if a = 0x0D then (0x9F : UInt8) else 0xBF).toNat := by
    split <;> simp <;> omega
  rw [first_three read ha, push_tail read hlow hhigh, if_neg (by simp)]
  rfl

theorem push_second_of_four {a b : Nat} (ha : a < 5) (hb : b < 0x40) (hleast : a = 0 → 0x10 ≤ b)
    (hgreatest : a = 4 → b < 0x10) :
    push (first read (UInt8.ofNat (a + 0xF0))) (UInt8.ofNat (b + 0x80)) =
      ⟨read, some ⟨2, 0x80, 0xBF, a * 64 + b⟩⟩ := by
  have hlow : (if a = 0 then (0x90 : UInt8) else 0x80).toNat ≤ b + 0x80 := by
    split <;> simp
    omega
  have hhigh : b + 0x80 ≤ (if a = 4 then (0x8F : UInt8) else 0xBF).toNat := by
    split <;> simp <;> omega
  rw [first_four read ha, push_tail read hlow hhigh, if_neg (by simp)]
  rfl

theorem foldl_push_of_encodes {bytes : Bytes} (h : Encodes n bytes) :
    bytes.foldl push ⟨read, none⟩ = ⟨some (Char.ofNat n) :: read, none⟩ := by
  cases h with
  | one ha => exact first_one read ha
  | two ha hb hleast =>
      rw [List.foldl_cons, push_start, first_two read ha hleast, List.foldl_cons,
        push_tail read (by simp) (by simp; omega)]
      rfl
  | three ha hb hc hleast hgreatest =>
      rw [List.foldl_cons, push_start, List.foldl_cons,
        push_second_of_three read ha hb hleast hgreatest, List.foldl_cons,
        push_tail read (by simp) (by simp; omega)]
      rfl
  | four ha hb hc hd hleast hgreatest =>
      rw [List.foldl_cons, push_start, List.foldl_cons,
        push_second_of_four read ha hb hleast hgreatest, List.foldl_cons,
        push_tail read (by simp) (by simp; omega), if_neg (by simp), List.foldl_cons,
        push_tail read (by simp) (by simp; omega)]
      rfl

theorem foldl_push_encode (s : List Char) :
    (encode s).foldl push ⟨read, none⟩ = ⟨(s.map some).reverse ++ read, none⟩ := by
  induction s generalizing read with
  | nil => rfl
  | cons c s ih =>
      have hc := foldl_push_of_encodes read (encodes_encodeChar c)
      rw [Char.ofNat_toNat] at hc
      rw [encode_cons, List.foldl_append, hc, ih]
      simp

end Decoder

theorem parts_encode (s : List Char) : parts (encode s) = s.map some := by
  rw [parts, Decoder.start, Decoder.foldl_push_encode, Decoder.finish]
  simp

theorem decode?_encode (s : List Char) : decode? (encode s) = some s := by
  simp [decode?, parts_encode]

/-- A byte below 0x80 is the whole of a character. -/
theorem Encodes.toNat_eq_of_mem {n : Nat} {bytes : Bytes} (h : Encodes n bytes) {b : UInt8}
    (hb : b ∈ bytes) (hlt : b.toNat < 0x80) : b.toNat = n := by
  cases h with
  | one ha =>
      rw [List.mem_singleton.mp hb]
      exact toNat_ofNat_of_lt (by omega)
  | two ha hb' hleast =>
      simp only [List.mem_cons, List.not_mem_nil, or_false] at hb
      rcases hb with rfl | rfl <;> rw [toNat_ofNat_of_lt (by omega)] at hlt <;> omega
  | three ha hb' hc hleast hgreatest =>
      simp only [List.mem_cons, List.not_mem_nil, or_false] at hb
      rcases hb with rfl | rfl | rfl <;> rw [toNat_ofNat_of_lt (by omega)] at hlt <;> omega
  | four ha hb' hc hd hleast hgreatest =>
      simp only [List.mem_cons, List.not_mem_nil, or_false] at hb
      rcases hb with rfl | rfl | rfl | rfl <;> rw [toNat_ofNat_of_lt (by omega)] at hlt <;> omega

theorem mem_of_mem_encode {b : UInt8} (hb : b ∈ encode s) (hlt : b.toNat < 0x80) :
    Char.ofNat b.toNat ∈ s := by
  obtain ⟨c, hc, hbc⟩ := List.mem_flatMap.mp hb
  rw [(encodes_encodeChar c).toNat_eq_of_mem hbc hlt, Char.ofNat_toNat]
  exact hc

/-! ## Order -/

/-- Two lists of bytes compare as two numbers do, whatever follows the bytes. -/
structure SameOrder (m n : Nat) (xs ys : Bytes) : Prop where
  eq : m = n → xs = ys
  lt : m < n → ∀ u v : Bytes, xs ++ u < ys ++ v

theorem cons_lt_cons_of_toNat_lt {m n : Nat} (h : m < n) (hn : n < 0x100) (u v : Bytes) :
    UInt8.ofNat m :: u < UInt8.ofNat n :: v := by
  apply List.cons_lt_cons_iff.mpr
  left
  rw [UInt8.lt_iff_toNat_lt, toNat_ofNat_of_lt (by omega), toNat_ofNat_of_lt hn]
  exact h

theorem SameOrder.lead {m n : Nat} (mark : Nat) (hn : n + mark < 0x100) :
    SameOrder m n [UInt8.ofNat (m + mark)] [UInt8.ofNat (n + mark)] where
  eq h := by rw [h]
  lt h u v := cons_lt_cons_of_toNat_lt (by omega) hn u v

/-- Six more bits on both sides. -/
theorem SameOrder.tail {m n a b : Nat} {xs ys : Bytes} (h : SameOrder m n xs ys) (ha : a < 0x40)
    (hb : b < 0x40) :
    SameOrder (m * 64 + a) (n * 64 + b) (xs ++ [UInt8.ofNat (a + 0x80)])
      (ys ++ [UInt8.ofNat (b + 0x80)]) where
  eq heq := by
    obtain ⟨rfl, rfl⟩ : m = n ∧ a = b := by omega
    rw [h.eq rfl]
  lt hlt u v := by
    rw [List.append_assoc, List.append_assoc]
    have hcases : m < n ∨ m = n ∧ a < b := by omega
    rcases hcases with hmn | ⟨rfl, hab⟩
    · exact h.lt hmn _ _
    · rw [h.eq rfl]
      exact List.append_left_lt (cons_lt_cons_of_toNat_lt (by omega) (by omega) u v)

/-- Forms of different lengths differ in their first bytes. -/
theorem Encodes.append_lt_append {m n : Nat} {xs ys : Bytes} (hx : Encodes m xs)
    (hy : Encodes n ys) (hlt : m < n) (u v : Bytes) : xs ++ u < ys ++ v := by
  cases hx with
  | one ha =>
      cases hy with
      | one ha' => exact (SameOrder.lead 0 (by omega)).lt hlt u v
      | two ha' _ _ => exact cons_lt_cons_of_toNat_lt (by omega) (by omega) _ _
      | three ha' _ _ _ _ => exact cons_lt_cons_of_toNat_lt (by omega) (by omega) _ _
      | four ha' _ _ _ _ _ => exact cons_lt_cons_of_toNat_lt (by omega) (by omega) _ _
  | two ha hb hleast =>
      cases hy with
      | one ha' => omega
      | two ha' hb' _ => exact ((SameOrder.lead 0xC0 (by omega)).tail hb hb').lt hlt u v
      | three ha' _ _ _ _ => exact cons_lt_cons_of_toNat_lt (by omega) (by omega) _ _
      | four ha' _ _ _ _ _ => exact cons_lt_cons_of_toNat_lt (by omega) (by omega) _ _
  | three ha hb hc hleast hgreatest =>
      cases hy with
      | one ha' => omega
      | two ha' hb' _ => omega
      | three ha' hb' hc' _ _ =>
          exact (((SameOrder.lead 0xE0 (by omega)).tail hb hb').tail hc hc').lt hlt u v
      | four ha' _ _ _ _ _ => exact cons_lt_cons_of_toNat_lt (by omega) (by omega) _ _
  | four ha hb hc hd hleast hgreatest =>
      cases hy with
      | one ha' => omega
      | two ha' hb' _ => omega
      | three ha' hb' hc' _ _ => omega
      | four ha' hb' hc' hd' _ _ =>
          exact ((((SameOrder.lead 0xF0 (by omega)).tail hb hb').tail hc hc').tail hd hd').lt
            hlt u v

theorem encode_lt_encode (h : s < t) : encode s < encode t := by
  induction h with
  | @nil c t =>
      obtain ⟨b, bytes, hbytes⟩ := List.exists_cons_of_ne_nil
        (String.utf8EncodeChar_ne_nil (c := c))
      rw [encode_cons, hbytes]
      exact List.nil_lt_cons _ _
  | @rel c s d t hcd =>
      exact (encodes_encodeChar c).append_lt_append (encodes_encodeChar d) hcd _ _
  | cons _ ih => exact List.append_left_lt ih

/-- The order of the bytes is that of the characters. -/
theorem encode_lt_encode_iff : encode s < encode t ↔ s < t := by
  constructor
  · intro h
    refine Classical.byContradiction fun hnot => ?_
    rcases List.le_iff_lt_or_eq.mp (List.not_lt.mp hnot) with hts | rfl
    · exact List.lt_irrefl _ (List.lt_trans h (encode_lt_encode hts))
    · exact List.lt_irrefl _ h
  · exact encode_lt_encode

end Utf8

end Text

end Conformance
