import Mathlib.Data.Nat.Digits.Defs
import NestedTx.Wire.Integer

/-!
# Integers in bytes, written and read

A number that fits into its bytes is what they are read as, in either order, with a sign or
without.
-/

namespace NestedTx.Wire

lemma natOfLittle_littleOfNat_of_lt {count n : Nat} (h : n < 256 ^ count) :
    natOfLittle (littleOfNat count n) = n := by
  rw [natOfLittle_littleOfNat, Nat.mod_eq_of_lt h]

lemma length_bigOfNat (count n : Nat) : (bigOfNat count n).length = count := by
  rw [bigOfNat, List.length_reverse, length_littleOfNat]

lemma natOfBig_bigOfNat_of_lt {count n : Nat} (h : n < 256 ^ count) :
    natOfBig (bigOfNat count n) = n := by
  rw [natOfBig, bigOfNat, List.reverse_reverse, natOfLittle_littleOfNat_of_lt h]

/-! ### Two's complement -/

lemma length_littleOfInt (count : Nat) (i : Int) : (littleOfInt count i).length = count :=
  length_littleOfNat count _

lemma length_bigOfInt (count : Nat) (i : Int) : (bigOfInt count i).length = count := by
  rw [bigOfInt, List.length_reverse, length_littleOfInt]

/-- The size of some bytes is the same whole number with a sign and without. -/
lemma natCast_size (count : Nat) : ((256 ^ count : Nat) : Int) = 256 ^ count := by
  rw [Int.natCast_pow]
  rfl

/-- More bytes hold more numbers. -/
lemma size_le_size {count wide : Nat} (h : count ≤ wide) : (256 ^ count : Int) ≤ 256 ^ wide := by
  have size := natCast_size count
  have wideSize := natCast_size wide
  have := Nat.pow_le_pow_right (by decide : 0 < 256) h
  omega

/-- A signed number is found again from its remainder. -/
lemma signed_emod {count : Nat} {i : Int} (hmin : -256 ^ count ≤ 2 * i)
    (hmax : 2 * i < 256 ^ count) : signed count (i % 256 ^ count).toNat = i := by
  have size := natCast_size count
  rw [signed]
  rcases Int.lt_or_le i 0 with neg | pos
  · have rem : i % 256 ^ count = i + 256 ^ count := by
      rw [← Int.add_emod_right, Int.emod_eq_of_lt (by omega) (by omega)]
    rw [rem, if_neg (by omega)]
    omega
  · rw [Int.emod_eq_of_lt pos (by omega), if_pos (by omega)]
    omega

/-- Reading a signed number from its bytes, the least significant first. -/
lemma intOfLittle_littleOfInt {count : Nat} {i : Int} (hmin : -256 ^ count ≤ 2 * i)
    (hmax : 2 * i < 256 ^ count) : intOfLittle (littleOfInt count i) = i := by
  have fits : (i % 256 ^ count).toNat < 256 ^ count := by
    have size := natCast_size count
    have := Int.emod_lt_of_pos i (by omega : (0 : Int) < 256 ^ count)
    omega
  rw [intOfLittle, length_littleOfInt, littleOfInt, natOfLittle_littleOfNat_of_lt fits,
    signed_emod hmin hmax]

/-- Reading a signed number from its bytes, the most significant first. -/
lemma intOfBig_bigOfInt {count : Nat} {i : Int} (hmin : -256 ^ count ≤ 2 * i)
    (hmax : 2 * i < 256 ^ count) : intOfBig (bigOfInt count i) = i := by
  rw [intOfBig, natOfBig, bigOfInt, List.length_reverse, List.reverse_reverse]
  exact intOfLittle_littleOfInt hmin hmax

end NestedTx.Wire
