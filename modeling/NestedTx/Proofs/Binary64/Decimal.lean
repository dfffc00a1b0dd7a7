import NestedTx.Binary64.Read
import NestedTx.Proofs.Binary64.Rounding
import NestedTx.Proofs.Text.Decimal

/-!
# Decimals in two precisions

A decimal is rounded to the closest magnitude of a format. A magnitude of 32 bits is one of 64
bits as well, and a decimal that is finite in 32 bits is so in 64 bits.
-/

namespace NestedTx.Binary64

open Text

/-! ### Decimals -/

/-- The number that a decimal stands for. -/
def Decimal.value (d : Decimal) : ℚ :=
  d.digits * 10 ^ d.exponent

lemma Decimal.value_nonneg (d : Decimal) : 0 ≤ d.value := by
  rw [value]
  positivity

lemma Decimal.value_lt (d : Decimal) :
    d.value < 10 ^ (d.exponent + (decimal d.digits).length) := by
  have digits : (d.digits : ℚ) < 10 ^ (decimal d.digits).length := by
    exact_mod_cast lt_ten_pow_length_decimal d.digits
  rw [value, add_comm, zpow_add₀ (by norm_num), zpow_natCast]
  gcongr

/-- Is the decimal so large that no format has a finite magnitude for it? -/
def Decimal.IsHuge (d : Decimal) : Prop :=
  d.digits ≠ 0 ∧ 400 < d.exponent + (decimal d.digits).length

namespace Format

variable {f : Format} {d : Decimal}

lemma nearestDecimal_of_huge (h : d.IsHuge) : f.nearestDecimal d = f.infinity := by
  have notTiny : ¬d.exponent + (decimal d.digits).length < -400 := by
    have := h.2
    omega
  rw [nearestDecimal, if_neg h.1]
  simp only [if_neg notTiny, if_pos h.2]

/-- Decimals that are taken for zero are so to every format with an exponent this small. -/
lemma two_mul_ten_pow_le_value (fine : -1202 ≤ f.minExponent) :
    2 * 10 ^ (-401 : Int) ≤ f.value 1 := by
  have unit_pos := f.unit_pos
  have smallest := @value_add f 0 1 (Or.inr rfl) (by omega)
  rw [Nat.zero_mul, Nat.zero_add, Nat.cast_one, one_mul, Nat.cast_zero, add_zero] at smallest
  rw [smallest]
  calc 2 * (10 : ℚ) ^ (-401 : Int) ≤ 2 * (2 ^ (3 : Int)) ^ (-401 : Int) := by
        have base : (2 : ℚ) ^ (3 : Int) ≤ 10 := by norm_num
        have powers := zpow_le_zpow_left₀ (by decide : (0 : Int) ≤ 401) (by norm_num) base
        rw [zpow_neg, zpow_neg]
        gcongr
    _ = 2 ^ (-1202 : Int) := by
        rw [← zpow_mul, ← zpow_one_add₀ two_ne_zero]
        norm_num
    _ ≤ 2 ^ f.minExponent := zpow_le_zpow_right₀ one_le_two fine

/-- A decimal is rounded to the closest magnitude, or to infinity if that one is too large. -/
lemma exists_isNearest_decimal (hf : 1 < f.precision) (fine : -1202 ≤ f.minExponent)
    (h : ¬d.IsHuge) :
    ∃ r, f.IsNearest d.value r ∧ f.nearestDecimal d = min r f.infinity := by
  rw [nearestDecimal]
  split_ifs with zero
  · refine ⟨0, ?_, (Nat.zero_min _).symm⟩
    rw [Decimal.value, zero, Nat.cast_zero, zero_mul]
    exact f.isNearest_zero
  · have notHuge : ¬400 < d.exponent + (decimal d.digits).length := fun huge => h ⟨zero, huge⟩
    simp only [if_neg notHuge]
    -- so small that zero is nearest, whatever the digits are
    split_ifs with tiny
    · refine ⟨0, IsNearest.of_lower ?_ (Or.inl ?_), (Nat.zero_min _).symm⟩
      · rw [value_zero]
        exact d.value_nonneg
      · have bound : d.value < 10 ^ (-401 : Int) :=
          d.value_lt.trans_le (zpow_le_zpow_right₀ (by norm_num) (by omega))
        have := two_mul_ten_pow_le_value fine
        rw [value_zero, Nat.zero_add]
        linarith
    · have ratio : d.value = (unscale 10 (-d.exponent) d.digits 1).1 /
          (unscale 10 (-d.exponent) d.digits 1).2 := by
        rw [unscale_div, Decimal.value, Nat.cast_one, div_one, zpow_neg, div_inv_eq_mul]
        rfl
      rw [ratio]
      exact exists_isNearest hf _ (unscale_den_pos _ _ (by decide) (by decide))

lemma nearestDecimal_le (f : Format) (d : Decimal) : f.nearestDecimal d ≤ f.infinity := by
  rw [nearestDecimal]
  split_ifs
  · exact Nat.zero_le _
  · simp only
    split_ifs
    · exact Nat.zero_le _
    · exact le_rfl
    · exact f.nearest_le _ _

end Format

/-! ### The two formats -/

lemma value_infinity_single : single.value single.infinity = 2 ^ (128 : Int) := by
  have split : single.infinity = 254 * single.unit + single.unit := by decide
  have unit : (single.unit : ℚ) = 2 ^ (23 : Int) := by norm_num [single, Format.unit]
  rw [split, Format.value_add (Or.inl le_rfl) (by decide), unit, ← zpow_add₀ two_ne_zero]
  rfl

lemma value_infinity_double : double.value double.infinity = 2 ^ (1024 : Int) := by
  have split : double.infinity = 2046 * double.unit + double.unit := by decide
  have unit : (double.unit : ℚ) = 2 ^ (52 : Int) := by norm_num [double, Format.unit]
  rw [split, Format.value_add (Or.inl le_rfl) (by decide), unit, ← zpow_add₀ two_ne_zero]
  rfl

/-- A magnitude of 32 bits is one of 64 bits, and the bits of that one are even. -/
lemma exists_widened {m : Nat} (hm : m < single.infinity) :
    ∃ b, Even b ∧ b < double.infinity ∧ double.value b = single.value m := by
  obtain ⟨E, n, rfl, low, high⟩ := single.exists_eq_add m
  have fits : n < double.unit := high.trans (by decide)
  obtain ⟨b, even, wide⟩ := Format.exists_even_value (by decide) (924 + E) fits
  have same : double.value b = single.value (E * single.unit + n) := by
    rw [wide, Format.value_add low high.le, mul_comm 2, mul_assoc, ← zpow_one_add₀ two_ne_zero]
    congr 2
    rw [double, single]
    push_cast
    ring
  refine ⟨b, even, ?_, same⟩
  rw [← double.value_strictMono.lt_iff_lt, same, value_infinity_double]
  calc single.value (E * single.unit + n) < single.value single.infinity :=
        single.value_strictMono hm
    _ = 2 ^ (128 : Int) := value_infinity_single
    _ ≤ 2 ^ (1024 : Int) := zpow_le_zpow_right₀ one_le_two (by decide)

/-- A decimal that is finite in 32 bits is rounded to a finite magnitude of 64 bits. -/
lemma isNearest_double {d : Decimal} (finite : single.nearestDecimal d < single.infinity) :
    double.nearestDecimal d < double.infinity ∧
      double.IsNearest d.value (double.nearestDecimal d) := by
  have moderate : ¬d.IsHuge := fun huge =>
    finite.ne (Format.nearestDecimal_of_huge huge)
  obtain ⟨r, near, rounded⟩ :=
    @Format.exists_isNearest_decimal single d (by decide) (by decide) moderate
  obtain ⟨w, wide, widened⟩ :=
    @Format.exists_isNearest_decimal double d (by decide) (by decide) moderate
  have below : d.value < 2 ^ (128 : Int) := by
    rw [← value_infinity_single]
    exact near.lt_value (by omega)
  have far : 2 * d.value < double.value double.infinity := by
    rw [value_infinity_double]
    calc 2 * d.value < 2 * 2 ^ (128 : Int) := by gcongr
      _ = 2 ^ (129 : Int) := (zpow_one_add₀ two_ne_zero 128).symm
      _ ≤ 2 ^ (1024 : Int) := zpow_le_zpow_right₀ one_le_two (by decide)
  have bound := wide.lt_of_two_mul_lt d.value_nonneg far
  have same : double.nearestDecimal d = w := by omega
  rw [same]
  exact ⟨bound, wide⟩

end NestedTx.Binary64
