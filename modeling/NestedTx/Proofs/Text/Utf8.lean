import Mathlib.Data.String.Basic
import NestedTx.Text.Utf8

/-!
# Reading UTF-8 back

What is written in UTF-8 is read back character by character, whatever comes behind it.
-/

namespace NestedTx.Text

/-- What holds of the characters in ASCII can be gone through. -/
lemma forall_ascii {c : Char} {p : Char → Prop} (h : ∀ n < 0x80, p (Char.ofNat n))
    (hc : c.toNat < 0x80) : p c := by
  have own := h c.toNat hc
  rwa [Char.ofNat_toNat] at own

/-- A digit takes one byte. -/
lemma utf8Size_of_isDigit {c : Char} (h : c.isDigit = true) : c.utf8Size = 1 :=
  Char.utf8Size_eq_one_iff.2
    (UInt32.le_trans (of_decide_eq_true (Bool.and_eq_true_iff.1 h).2) (by decide))

/-- A text of characters of one byte has as many bytes as characters. -/
lemma utf8Len_eq_length {cs : List Char} (h : ∀ c ∈ cs, c.utf8Size = 1) :
    String.utf8Len cs = cs.length := by
  induction cs with
  | nil => rfl
  | cons c cs ih =>
    obtain ⟨first, others⟩ := List.forall_mem_cons.1 h
    rw [String.utf8Len_cons, ih others, first, List.length_cons]

/-! ### First bytes

There are few first bytes of each length, so they are gone through one by one. -/

lemma leadByte?_one {d : Nat} (hd : d < 128) :
    leadByte? (UInt8.ofNat d) = some (0, 0x80, 0xBF) ∧ leadBits (UInt8.ofNat d) = d := by
  decide +revert

lemma leadByte?_two {d : Nat} (hd : d < 32) (h2 : 2 ≤ d) :
    leadByte? (UInt8.ofNat (d + 0xC0)) = some (1, 0x80, 0xBF) ∧
      leadBits (UInt8.ofNat (d + 0xC0)) = d := by
  decide +revert

lemma leadByte?_three {d : Nat} (hd : d < 16) :
    leadByte? (UInt8.ofNat (d + 0xE0)) =
        some (2, if d = 0 then 0xA0 else 0x80, if d = 13 then 0x9F else 0xBF) ∧
      leadBits (UInt8.ofNat (d + 0xE0)) = d := by
  decide +revert

lemma leadByte?_four {d : Nat} (hd : d < 5) :
    leadByte? (UInt8.ofNat (d + 0xF0)) =
        some (3, if d = 0 then 0x90 else 0x80, if d = 4 then 0x8F else 0xBF) ∧
      leadBits (UInt8.ofNat (d + 0xF0)) = d := by
  decide +revert

/-! ### Continuation bytes -/

/-- One more continuation byte, with the six bits that it carries. -/
lemma utf8Continue_cons {low high : UInt8} {d : Nat} (hd : d < 64) (hl : low.toNat ≤ d + 0x80)
    (hh : d + 0x80 ≤ high.toNat) (value n : Nat) (bs : List UInt8) :
    utf8Continue value low high (n + 1) (UInt8.ofNat (d + 0x80) :: bs) =
      utf8Continue (64 * value + d) 0x80 0xBF n bs := by
  have hb : (UInt8.ofNat (d + 0x80)).toNat = d + 0x80 := by
    rw [UInt8.toNat_ofNat']
    omega
  rw [utf8Continue, if_pos, hb]
  · congr 2
    omega
  · simp only [UInt8.le_iff_toNat_le, hb, hl, hh, decide_true, Bool.and_self]

/-! ### Characters -/

/-- A continuation byte that may have any value. -/
lemma utf8Continue_cons_any {d : Nat} (hd : d < 64) (value n : Nat) (bs : List UInt8) :
    utf8Continue value 0x80 0xBF (n + 1) (UInt8.ofNat (d + 0x80) :: bs) =
      utf8Continue (64 * value + d) 0x80 0xBF n bs :=
  utf8Continue_cons hd (Nat.le_add_left ..) (by simpa using Nat.le_of_lt_succ hd) ..

lemma utf8Step_utf8EncodeChar (c : Char) (rest : List UInt8) :
    ∃ b bs, String.utf8EncodeChar c = b :: bs ∧ utf8Step b (bs ++ rest) = (some c, rest) := by
  have valid : c.toNat < 0xD800 ∨ 0xDFFF < c.toNat ∧ c.toNat < 0x110000 := c.valid
  have whole {value : Nat} (h : value = c.toNat) :
      (some (Char.ofNat value), rest) = (some c, rest) := by
    rw [h, Char.ofNat_toNat]
  unfold String.utf8EncodeChar
  simp only [show c.val.toNat = c.toNat from rfl]
  generalize c.toNat = n at valid whole
  -- one case for each length; the lead byte and the range of the second byte depend on it
  split_ifs with one two three
  · obtain ⟨lead, bits⟩ := leadByte?_one (show n < 128 by omega)
    refine ⟨_, _, rfl, ?_⟩
    simp only [utf8Step, lead, bits, List.nil_append, utf8Continue]
    exact whole rfl
  · obtain ⟨lead, bits⟩ := leadByte?_two (show n / 64 % 32 < 32 by omega) (by omega)
    refine ⟨_, _, rfl, ?_⟩
    simp only [utf8Step, lead, bits, List.cons_append, List.nil_append]
    rw [utf8Continue_cons_any (by omega), utf8Continue]
    exact whole (by omega)
  · obtain ⟨lead, bits⟩ := leadByte?_three (show n / 4096 % 16 < 16 by omega)
    refine ⟨_, _, rfl, ?_⟩
    simp only [utf8Step, lead, bits, List.cons_append, List.nil_append]
    rw [utf8Continue_cons (by omega) ?_ ?_, utf8Continue_cons_any (by omega), utf8Continue]
    · exact whole (by omega)
    · split_ifs
      · simp
        omega
      · simp
    · split_ifs
      · simp
        omega
      · simp
        omega
  · obtain ⟨lead, bits⟩ := leadByte?_four (show n / 262144 % 8 < 5 by omega)
    refine ⟨_, _, rfl, ?_⟩
    simp only [utf8Step, lead, bits, List.cons_append, List.nil_append]
    rw [utf8Continue_cons (by omega) ?_ ?_, utf8Continue_cons_any (by omega),
      utf8Continue_cons_any (by omega), utf8Continue]
    · exact whole (by omega)
    · split_ifs
      · simp
        omega
      · simp
    · split_ifs
      · simp
        omega
      · simp
        omega

lemma utf8Decode?_cons (c : Char) (rest : List UInt8) :
    utf8Decode? (String.utf8EncodeChar c ++ rest) = (utf8Decode? rest).map (c :: ·) := by
  obtain ⟨b, bs, hb, step⟩ := utf8Step_utf8EncodeChar c rest
  rw [hb, List.cons_append, utf8Decode?]
  split <;> simp_all

/-- What is written in UTF-8 is read back. -/
theorem utf8Decode?_utf8 (cs : List Char) : utf8Decode? (utf8 cs) = some cs := by
  induction cs with
  | nil => simp [utf8, utf8Decode?]
  | cons c cs ih =>
    rw [utf8] at ih ⊢
    rw [List.flatMap_cons, utf8Decode?_cons, ih]
    rfl

lemma utf8DecodeLossy_cons (c : Char) (rest : List UInt8) :
    utf8DecodeLossy (String.utf8EncodeChar c ++ rest) = c :: utf8DecodeLossy rest := by
  obtain ⟨b, bs, hb, step⟩ := utf8Step_utf8EncodeChar c rest
  rw [hb, List.cons_append, utf8DecodeLossy]
  split
  simp_all

/-- Nothing that is written in UTF-8 is malformed. -/
theorem utf8DecodeLossy_utf8 (cs : List Char) : utf8DecodeLossy (utf8 cs) = cs := by
  induction cs with
  | nil => simp [utf8, utf8DecodeLossy]
  | cons c cs ih =>
    rw [utf8] at ih ⊢
    rw [List.flatMap_cons, utf8DecodeLossy_cons, ih]

end NestedTx.Text
