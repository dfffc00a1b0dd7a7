import NestedTx.Proofs.Binary64.Decimal

/-!
# Numbers of single precision

A finite number of 32 bits is widened without a change, so that it can be compared with what its
decimal is in 64 bits. The latter is a number closest to what the text says; the two are the same
exactly if no number of 64 bits is closer to it than the widened one.
-/

namespace NestedTx.Binary64

open Text

/-! ### Signs -/

/-- A magnitude with its sign. -/
def signed (negative : Bool) (v : ℚ) : ℚ :=
  if negative then -v else v

lemma abs_signed_sub (negative : Bool) (v w : ℚ) :
    |signed negative v - signed negative w| = |v - w| := by
  cases negative with
  | false => rfl
  | true => rw [signed, signed, if_pos rfl, if_pos rfl, neg_sub_neg, abs_sub_comm]

/-- Magnitudes are as close as the numbers, or closer if the signs differ. -/
lemma abs_sub_le_abs_signed_sub (n m : Bool) {v w : ℚ} (hv : 0 ≤ v) (hw : 0 ≤ w) :
    |v - w| ≤ |signed n v - signed m w| := by
  have apart : |v - w| ≤ v + w := abs_sub_le_iff.2 ⟨by linarith, by linarith⟩
  cases n <;> cases m
  · exact (abs_signed_sub false v w).ge
  · simp only [signed, Bool.false_eq_true, if_false, if_true, sub_neg_eq_add]
    exact apart.trans (le_abs_self _)
  · simp only [signed, Bool.false_eq_true, if_false, if_true]
    rw [← neg_add', abs_neg]
    exact apart.trans (le_abs_self _)
  · exact (abs_signed_sub true v w).ge

/-- The number that the bits stand for, if they are those of a finite one. -/
def value (x : Binary64) : ℚ :=
  signed x.isNegative (double.value x.magnitude)

lemma toNat_bits_ofMagnitude {m : Nat} (h : m < 0x8000000000000000) (negative : Bool) :
    (ofMagnitude negative m).bits.toNat = if negative then m + 0x8000000000000000 else m := by
  have fits : (if negative then m + 0x8000000000000000 else m) < UInt64.size := by
    rw [UInt64.size]
    split_ifs <;> omega
  exact UInt64.toNat_ofNat_of_lt' fits

lemma magnitude_ofMagnitude {m : Nat} (h : m < 0x8000000000000000) (negative : Bool) :
    (ofMagnitude negative m).magnitude = m := by
  rw [magnitude, toNat_bits_ofMagnitude h]
  split_ifs <;> omega

lemma isNegative_ofMagnitude {m : Nat} (h : m < 0x8000000000000000) (negative : Bool) :
    (ofMagnitude negative m).isNegative = negative := by
  rw [isNegative, toNat_bits_ofMagnitude h]
  cases negative with
  | false => simpa using h
  | true => simp

lemma ofMagnitude_inj {m k : Nat} (hm : m < 0x8000000000000000) (hk : k < 0x8000000000000000)
    {negative sign : Bool} :
    ofMagnitude negative m = ofMagnitude sign k ↔ negative = sign ∧ m = k := by
  constructor
  · intro h
    have signs := congrArg isNegative h
    have magnitudes := congrArg magnitude h
    rw [isNegative_ofMagnitude hm, isNegative_ofMagnitude hk] at signs
    rw [magnitude_ofMagnitude hm, magnitude_ofMagnitude hk] at magnitudes
    exact ⟨signs, magnitudes⟩
  · rintro ⟨rfl, rfl⟩
    rfl

lemma lt_of_finite {m : Nat} (h : m < double.infinity) : m < 0x8000000000000000 :=
  h.trans (by decide)

lemma isFinite_ofMagnitude {m : Nat} (h : m < double.infinity) (negative : Bool) :
    (ofMagnitude negative m).isFinite := by
  rw [isFinite, magnitude_ofMagnitude (lt_of_finite h), decide_eq_true_iff]
  exact h

lemma value_ofMagnitude {m : Nat} (h : m < double.infinity) (negative : Bool) :
    (ofMagnitude negative m).value = signed negative (double.value m) := by
  rw [value, isNegative_ofMagnitude (lt_of_finite h), magnitude_ofMagnitude (lt_of_finite h)]

/-- The closest magnitude with the sign of a number is the closest number. -/
lemma closest_ofMagnitude {v : ℚ} {m : Nat} (nonneg : 0 ≤ v) (near : double.IsNearest v m)
    (finite : m < double.infinity) (negative : Bool) (z : Binary64) :
    |(ofMagnitude negative m).value - signed negative v| ≤ |z.value - signed negative v| := by
  rw [value_ofMagnitude finite, abs_signed_sub]
  exact (near.closest z.magnitude).trans
    (abs_sub_le_abs_signed_sub z.isNegative negative (double.value_nonneg _) nonneg)

/-! ### Single precision -/

/-- The number that 32 bits stand for, if they are those of a finite one. -/
def singleValue (x : UInt32) : ℚ :=
  signed (0x80000000 ≤ x.toNat) (single.value (x.toNat % 0x80000000))

lemma exists_ofSingle_eq {x : UInt32} (finite : x.toNat % 0x80000000 < single.infinity) :
    ∃ b, Even b ∧ b < double.infinity ∧ double.value b = single.value (x.toNat % 0x80000000) ∧
      ofSingle x = ofMagnitude (0x80000000 ≤ x.toNat) b := by
  obtain ⟨b, even, bound, same⟩ := exists_widened finite
  refine ⟨b, even, bound, same, ?_⟩
  simp only [ofSingle, ofRatio]
  rw [if_neg finite.not_gt, if_neg finite.ne,
    Format.nearest_of_value (by decide) (unscale_den_pos _ _ (by decide) (by decide))
      ((single.unscale_parts _).trans same.symm) bound.le]

/-- A finite number of 32 bits is widened without a change. -/
lemma value_ofSingle {x : UInt32} (finite : x.toNat % 0x80000000 < single.infinity) :
    (ofSingle x).isFinite ∧ (ofSingle x).value = singleValue x := by
  obtain ⟨b, -, bound, same, widened⟩ := exists_ofSingle_eq finite
  rw [widened, value_ofMagnitude bound, same]
  exact ⟨isFinite_ofMagnitude bound _, rfl⟩

-- the number of 32 bits that is closest to a tenth
example : (ofSingle 0x3DCCCCCD).value = 13421773 / 134217728 := by decide +kernel

lemma ofSingle_of_infinite {x : UInt32} (h : x.toNat % 0x80000000 = single.infinity) :
    ofSingle x = infinity (0x80000000 ≤ x.toNat) := by
  simp only [ofSingle]
  rw [if_neg h.not_gt, if_pos h]

/-! ### Readings -/

/-- The number that a text stands for, if it is a finite one. -/
def exactValue? (cs : List Char) : Option ℚ :=
  (signed? cs).bind fun
    | (negative, .finite d) => some (signed negative d.value)
    | _ => none

/-- Bits of a magnitude and the sign bit in front of them are told apart again. -/
lemma toNat_signed_single {m : Nat} (h : m < 0x80000000) (negative : Bool) :
    (UInt32.ofNat (if negative then m + 0x80000000 else m)).toNat % 0x80000000 = m ∧
      decide (0x80000000 ≤ (UInt32.ofNat (if negative then m + 0x80000000 else m)).toNat) =
        negative := by
  have fits : (if negative then m + 0x80000000 else m) < UInt32.size := by
    rw [UInt32.size]
    split_ifs <;> omega
  rw [UInt32.toNat_ofNat_of_lt' fits]
  cases negative with
  | false => simpa using h
  | true => simpa using Nat.mod_eq_of_lt h

/-- A text that is a finite number of 32 bits is a decimal that is finite in 32 bits. -/
lemma exists_decimal_of_readSingle? {x : UInt32} {cs : List Char}
    (finite : x.toNat % 0x80000000 < single.infinity)
    (text : readSingle? cs = some (ofSingle x)) :
    ∃ d, signed? cs = some (decide (0x80000000 ≤ x.toNat), .finite d) ∧
      single.nearestDecimal d < single.infinity := by
  obtain ⟨b, -, bound, -, widened⟩ := exists_ofSingle_eq finite
  have small := lt_of_finite bound
  rw [readSingle?, Option.map_eq_some_iff, widened] at text
  obtain ⟨⟨negative, magnitude⟩, read, same⟩ := text
  cases magnitude with
  | infinite =>
    have := ((ofMagnitude_inj (by decide) small).1 same).2
    omega
  | notANumber =>
    have := ((@ofMagnitude_inj 0x7FF8000000000000 b (by decide) small false _).1 same).2
    have : double.infinity ≤ 0x7FF8000000000000 := by decide
    omega
  | finite d =>
    have limit := single.nearestDecimal_le d
    have fits : single.nearestDecimal d < 0x80000000 := limit.trans_lt (by decide)
    obtain ⟨rest, sign⟩ := toNat_signed_single fits negative
    rcases limit.lt_or_eq with inside | overflow
    · obtain ⟨k, -, bound', -, widened'⟩ := exists_ofSingle_eq (rest.trans_lt inside)
      rw [sign] at widened'
      have signs := ((ofMagnitude_inj (lt_of_finite bound') small).1 (widened'.symm.trans same)).1
      exact ⟨d, signs ▸ read, inside⟩
    -- a decimal that rounds beyond the format is read as an infinity, and `x` is finite
    · have infinite := ofSingle_of_infinite (rest.trans overflow)
      have := ((ofMagnitude_inj (by decide) small).1 (infinite.symm.trans same)).2
      omega

/-- What a text that reads back as a finite number of 32 bits is read as in 64 bits: a closest
number to what it says. It is the widened number exactly if no number is closer than that one. -/
theorem two_readings {x : UInt32} {cs : List Char}
    (finite : x.toNat % 0x80000000 < single.infinity)
    (text : readSingle? cs = some (ofSingle x)) :
    ∃ q y, exactValue? cs = some q ∧ read? cs = some y ∧ y.isFinite ∧
      (∀ z : Binary64, z.isFinite → |y.value - q| ≤ |z.value - q|) ∧
      (y = ofSingle x ↔ ∀ z : Binary64, z.isFinite → |(ofSingle x).value - q| ≤ |z.value - q|) := by
  obtain ⟨d, read, fits⟩ := exists_decimal_of_readSingle? finite text
  obtain ⟨b, even, bound, -, widened⟩ := exists_ofSingle_eq finite
  obtain ⟨inside, near⟩ := isNearest_double fits
  refine ⟨signed (decide (0x80000000 ≤ x.toNat)) d.value, _, ?_, ?_,
    isFinite_ofMagnitude inside (decide (0x80000000 ≤ x.toNat)),
    fun z _ => closest_ofMagnitude d.value_nonneg near inside _ z, ?_⟩
  · rw [exactValue?, read]
    rfl
  · rw [read?, read]
    rfl
  · rw [widened]
    constructor
    · intro same z _
      rw [← same]
      exact closest_ofMagnitude d.value_nonneg near inside _ z
    · intro closest
      have close := closest _ (isFinite_ofMagnitude inside (decide (0x80000000 ≤ x.toNat)))
      rw [value_ofMagnitude bound, value_ofMagnitude inside, abs_signed_sub,
        abs_signed_sub] at close
      -- two nearest numbers make a tie, and the even one of them is the single
      rw [near.eq_of_even b even close]

end NestedTx.Binary64
