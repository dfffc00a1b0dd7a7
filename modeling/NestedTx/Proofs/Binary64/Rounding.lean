import Mathlib.Algebra.Order.Field.Power
import Mathlib.Data.Nat.Cast.Order.Field
import Mathlib.Data.Rat.Cast.Order
import Mathlib.Tactic.FieldSimp
import Mathlib.Tactic.Linarith
import Mathlib.Tactic.NormNum
import Mathlib.Tactic.Positivity
import Mathlib.Tactic.Ring
import NestedTx.Binary64.Format

/-!
# Rounding to the closest magnitude

The bits of a format count its magnitudes in the order of their values. A positive ratio lies
between two neighbours, and rounding takes the closer one or, of two equally close ones, the one
with even bits: no other magnitude is closer, and no other one with even bits is as close.
-/

namespace NestedTx.Binary64

-- powers are those of the core library, as in the definitions
attribute [local instance (high)] instPowNat

/-! ### Ratios -/

lemma unscale_den_pos {b : Nat} (e : Int) (num : Nat) {den : Nat} (hb : 0 < b) (hden : 0 < den) :
    0 < (unscale b e num den).2 := by
  rw [unscale]
  split_ifs
  · exact Nat.mul_pos hden (Nat.pow_pos hb)
  · exact hden

lemma unscale_div (b : Nat) (e : Int) (num den : Nat) :
    ((unscale b e num den).1 : ℚ) / (unscale b e num den).2 = num / den / (b : ℚ) ^ e := by
  rw [unscale]
  split_ifs with sign
  · obtain ⟨k, rfl⟩ := Int.eq_ofNat_of_zero_le sign
    push_cast
    rw [zpow_natCast, div_div, Int.toNat_natCast]
  · obtain ⟨k, rfl⟩ : ∃ k : Nat, e = -k := ⟨(-e).toNat, by omega⟩
    push_cast
    rw [neg_neg, Int.toNat_natCast, zpow_neg, zpow_natCast, div_inv_eq_mul, div_mul_eq_mul_div]

/-- Comparing the parts compares the ratio with the scale. -/
lemma unscale_le_iff {b : Nat} (e : Int) (num : Nat) {den : Nat} (hb : 0 < b) (hden : 0 < den) :
    (unscale b e num den).2 ≤ (unscale b e num den).1 ↔ (b : ℚ) ^ e ≤ num / den := by
  have scale_pos : (0 : ℚ) < (b : ℚ) ^ e := zpow_pos (by exact_mod_cast hb) e
  have den_pos : (0 : ℚ) < (unscale b e num den).2 := by
    exact_mod_cast unscale_den_pos e num hb hden
  rw [← one_le_div scale_pos, ← unscale_div, one_le_div den_pos, Nat.cast_le]

lemma two_pow_log2_le {n : Nat} (h : 0 < n) : (2 : ℚ) ^ (n.log2 : Int) ≤ n := by
  rw [zpow_natCast]
  exact_mod_cast Nat.log2_self_le h.ne'

lemma lt_two_pow_log2 (n : Nat) : (n : ℚ) < 2 ^ (n.log2 + 1 : Int) := by
  have := @Nat.lt_log2_self n
  exact_mod_cast this

/-- The exponent is the one of the largest power of two below the ratio. -/
lemma floorLog2_spec {num den : Nat} (hnum : 0 < num) (hden : 0 < den) :
    (2 : ℚ) ^ floorLog2 num den ≤ num / den ∧
      (num / den : ℚ) < 2 ^ (floorLog2 num den + 1) := by
  have den_pos : (0 : ℚ) < den := by exact_mod_cast hden
  -- the lengths of the two numbers leave two candidates
  have low : (2 : ℚ) ^ ((num.log2 : Int) - den.log2 - 1) ≤ num / den := by
    rw [le_div_iff₀ den_pos]
    calc (2 : ℚ) ^ ((num.log2 : Int) - den.log2 - 1) * den
        ≤ 2 ^ ((num.log2 : Int) - den.log2 - 1) * 2 ^ (den.log2 + 1 : Int) := by
          gcongr
          exact (lt_two_pow_log2 den).le
      _ = 2 ^ (num.log2 : Int) := by
          rw [← zpow_add₀ two_ne_zero]
          congr 1
          ring
      _ ≤ num := two_pow_log2_le hnum
  have high : (num / den : ℚ) < 2 ^ ((num.log2 : Int) - den.log2 + 1) := by
    rw [div_lt_iff₀ den_pos]
    calc (num : ℚ) < 2 ^ (num.log2 + 1 : Int) := lt_two_pow_log2 num
      _ = 2 ^ ((num.log2 : Int) - den.log2 + 1) * 2 ^ (den.log2 : Int) := by
          rw [← zpow_add₀ two_ne_zero]
          congr 1
          ring
      _ ≤ 2 ^ ((num.log2 : Int) - den.log2 + 1) * den := by
          gcongr
          exact two_pow_log2_le hden
  -- and the comparison decides between them
  have compare := unscale_le_iff ((num.log2 : Int) - den.log2) num (by decide : 0 < 2) hden
  simp only [floorLog2]
  split_ifs with h
  · exact ⟨compare.1 h, high⟩
  · rw [sub_add_cancel]
    exact ⟨low, not_le.1 fun upper => h (compare.2 upper)⟩

/-- Rounding takes the whole number below the quotient or the one above it. -/
lemma roundHalfEven_eq {n d : Nat} (hd : 0 < d) :
    roundHalfEven n d =
      if 2 * (n / d : ℚ) < 2 * (n / d : Nat) + 1 ∨
          (2 * (n / d : ℚ) = 2 * (n / d : Nat) + 1 ∧ n / d % 2 = 0) then n / d
      else n / d + 1 := by
  have d_pos : (0 : ℚ) < d := by exact_mod_cast hd
  have division : (n : ℚ) = d * (n / d : Nat) + (n % d : Nat) := by
    exact_mod_cast (Nat.div_add_mod n d).symm
  have scaled : 2 * (n / d : ℚ) = 2 * (n / d : Nat) + (2 * (n % d) : Nat) / d := by
    field_simp
    push_cast
    linarith
  have below : 2 * (n % d) < d ↔ 2 * (n / d : ℚ) < 2 * (n / d : Nat) + 1 := by
    rw [scaled, add_lt_add_iff_left, div_lt_one d_pos, Nat.cast_lt]
  have tie : 2 * (n % d) = d ↔ 2 * (n / d : ℚ) = 2 * (n / d : Nat) + 1 := by
    rw [scaled, add_right_inj, div_eq_one_iff_eq d_pos.ne', Nat.cast_inj]
  simp only [roundHalfEven, below, tie]

namespace Format

variable {f : Format}

/-! ### Magnitudes in order -/

/-- The magnitudes that share an exponent, from the first one on. -/
def unit (f : Format) : Nat :=
  2 ^ (f.precision - 1)

/-- The magnitude that bits stand for, as if there were none too large for the format. The upper
bits are the exponent, counted from one, and the lower ones the significand behind its leading
one. Where the upper bits are zero there is no leading one, and the exponent is the smallest. -/
def value (f : Format) (bits : Nat) : ℚ :=
  if bits < f.unit then bits * 2 ^ f.minExponent
  else (f.unit + bits % f.unit : Nat) * 2 ^ (f.minExponent + (bits / f.unit : Nat) - 1)

lemma unit_pos (f : Format) : 0 < f.unit :=
  Nat.two_pow_pos _

lemma parts_eq (f : Format) (bits : Nat) :
    f.parts bits =
      if bits / f.unit = 0 then (bits, f.minExponent)
      else (bits % f.unit + f.unit, f.minExponent + (bits / f.unit - 1 : Nat)) :=
  rfl

lemma parts_of_lt {n : Nat} (h : n < f.unit) : f.parts n = (n, f.minExponent) := by
  rw [parts_eq, if_pos (Nat.div_eq_of_lt h)]

lemma parts_of_unit_le {E n : Nat} (low : f.unit ≤ n) (high : n < 2 * f.unit) :
    f.parts (E * f.unit + n) = (n, f.minExponent + E) := by
  obtain ⟨k, rfl⟩ := Nat.exists_eq_add_of_le low
  have small : k < f.unit := by omega
  have carried : E * f.unit + (f.unit + k) = k + (E + 1) * f.unit := by ring
  rw [carried, parts_eq, Nat.add_mul_div_right _ _ f.unit_pos, Nat.div_eq_of_lt small,
    Nat.add_mul_mod_self_right, Nat.mod_eq_of_lt small, Nat.zero_add, if_neg (by omega),
    Nat.add_sub_cancel, Nat.add_comm k]

lemma value_eq (f : Format) (bits : Nat) :
    f.value bits = (f.parts bits).1 * 2 ^ (f.parts bits).2 := by
  rw [value]
  split_ifs with sub
  · rw [parts_of_lt sub]
  · have exponent : 1 ≤ bits / f.unit := Nat.div_pos (Nat.not_lt.1 sub) f.unit_pos
    rw [parts_eq, if_neg (Nat.pos_iff_ne_zero.1 exponent), Nat.cast_sub exponent, Nat.cast_one,
      add_sub_assoc, Nat.add_comm]

/-- Within an exponent the bits count the units; one past its end is the start of the next. -/
lemma value_add {E n : Nat} (low : f.unit ≤ n ∨ E = 0) (high : n ≤ 2 * f.unit) :
    f.value (E * f.unit + n) = n * 2 ^ (f.minExponent + E) := by
  have unit_pos := f.unit_pos
  rcases high.lt_or_eq with high | rfl
  · rcases Nat.lt_or_ge n f.unit with sub | normal
    · obtain rfl : E = 0 := low.resolve_left (by omega)
      rw [value_eq, Nat.zero_mul, Nat.zero_add, parts_of_lt sub, Nat.cast_zero, add_zero]
    · rw [value_eq, parts_of_unit_le normal high]
  · have carried : E * f.unit + 2 * f.unit = (E + 1) * f.unit + f.unit := by ring
    rw [carried, value_eq, parts_of_unit_le le_rfl (by omega), Nat.cast_add, ← add_assoc,
      Nat.cast_one, zpow_add_one₀ two_ne_zero]
    push_cast
    ring

lemma exists_eq_add (f : Format) (bits : Nat) :
    ∃ E n, bits = E * f.unit + n ∧ (f.unit ≤ n ∨ E = 0) ∧ n < 2 * f.unit := by
  have rest := Nat.mod_lt bits f.unit_pos
  have division := Nat.div_add_mod' bits f.unit
  rcases Nat.eq_zero_or_pos (bits / f.unit) with sub | normal
  · refine ⟨0, bits, (by omega), Or.inr rfl, ?_⟩
    rw [sub] at division
    omega
  · obtain ⟨E, hE⟩ := Nat.exists_eq_add_of_le' normal
    refine ⟨E, f.unit + bits % f.unit, ?_, Or.inl (Nat.le_add_right _ _), by omega⟩
    rw [← Nat.add_assoc, ← Nat.succ_mul, Nat.succ_eq_add_one, ← hE, division]

lemma value_strictMono (f : Format) : StrictMono f.value := by
  refine strictMono_nat_of_lt_succ fun bits => ?_
  obtain ⟨E, n, rfl, low, high⟩ := f.exists_eq_add bits
  rw [Nat.add_assoc, value_add low high.le, value_add (by omega) high]
  gcongr
  exact Nat.lt_succ_self n

/-- The significand, scaled by its exponent, is the magnitude as a ratio. -/
lemma unscale_parts (f : Format) (bits : Nat) :
    ((unscale 2 (-(f.parts bits).2) (f.parts bits).1 1).1 : ℚ) /
      (unscale 2 (-(f.parts bits).2) (f.parts bits).1 1).2 = f.value bits := by
  rw [unscale_div, value_eq, Nat.cast_one, div_one, zpow_neg, div_inv_eq_mul, Nat.cast_ofNat]

lemma value_nonneg (f : Format) (bits : Nat) : 0 ≤ f.value bits := by
  rw [value_eq]
  positivity

@[simp] lemma value_zero (f : Format) : f.value 0 = 0 := by
  simp [value, f.unit_pos]

/-! ### The closest magnitude -/

/-- The magnitude is a closest one to the number, and one with even bits that is as close is no
other. -/
structure IsNearest (f : Format) (v : ℚ) (r : Nat) : Prop where
  closest : ∀ b, |f.value r - v| ≤ |f.value b - v|
  eq_of_even : ∀ b, Even b → |f.value b - v| ≤ |f.value r - v| → b = r

lemma IsNearest.of_farther {v : ℚ} {r : Nat}
    (h : ∀ c, c ≠ r → |f.value r - v| < |f.value c - v| ∨
      (|f.value r - v| = |f.value c - v| ∧ ¬Even c)) : f.IsNearest v r := by
  constructor
  · intro c
    rcases eq_or_ne c r with rfl | other
    · exact le_rfl
    · exact (h c other).elim le_of_lt fun tie => tie.1.le
  · intro c even close
    by_contra other
    rcases h c other with farther | ⟨-, odd⟩
    · exact farther.not_ge close
    · exact odd even

/-- Of two neighbours around a number the lower one, if it is closer. -/
lemma IsNearest.of_lower {v : ℚ} {b : Nat} (below : f.value b ≤ v)
    (closer : 2 * v < f.value b + f.value (b + 1) ∨
      (2 * v = f.value b + f.value (b + 1) ∧ Even b)) : f.IsNearest v b := by
  have half : 2 * v ≤ f.value b + f.value (b + 1) := closer.elim le_of_lt fun tie => tie.1.le
  refine IsNearest.of_farther fun c other => ?_
  rw [abs_of_nonpos (sub_nonpos.2 below), neg_sub]
  rcases Nat.lt_or_gt_of_ne other with lower | above
  · have := f.value_strictMono lower
    left
    linarith [neg_le_abs (f.value c - v)]
  · rcases (Nat.succ_le_of_lt above).eq_or_lt with rfl | further
    · rw [abs_of_nonneg (by linarith)]
      refine closer.imp (fun less => by linarith) fun tie => ⟨by linarith [tie.1], ?_⟩
      exact fun even => Nat.even_add_one.1 even tie.2
    · have := f.value_strictMono further
      left
      linarith [le_abs_self (f.value c - v)]

/-- Of two neighbours around a number the upper one, if it is closer. -/
lemma IsNearest.of_upper {v : ℚ} {b : Nat} (above : v ≤ f.value (b + 1))
    (closer : f.value b + f.value (b + 1) < 2 * v ∨
      (f.value b + f.value (b + 1) = 2 * v ∧ ¬Even b)) : f.IsNearest v (b + 1) := by
  have half : f.value b + f.value (b + 1) ≤ 2 * v := closer.elim le_of_lt fun tie => tie.1.le
  refine IsNearest.of_farther fun c other => ?_
  rw [abs_of_nonneg (sub_nonneg.2 above)]
  rcases Nat.lt_or_gt_of_ne other with lower | higher
  · rcases (Nat.le_of_lt_succ lower).eq_or_lt with rfl | further
    · rw [abs_of_nonpos (by linarith)]
      exact closer.imp (fun less => by linarith) fun tie => ⟨by linarith [tie.1], tie.2⟩
    · have := f.value_strictMono further
      left
      linarith [neg_le_abs (f.value c - v)]
  · have := f.value_strictMono higher
    left
    linarith [le_abs_self (f.value c - v)]

/-- Units have an even number of magnitudes, so that bits and significand are even together. -/
lemma even_units_add (hf : 1 < f.precision) (E n : Nat) : Even (E * f.unit + n) ↔ n % 2 = 0 := by
  have even : Even f.unit := by
    rw [unit, Nat.even_pow]
    exact ⟨even_two, by omega⟩
  rw [Nat.even_add, iff_true_left (even.mul_left E), Nat.even_iff]

/-- Rounding the quotient of a ratio by the unit rounds the ratio. -/
lemma isNearest_units (hf : 1 < f.precision) {E n d : Nat} (hd : 0 < d)
    (low : f.unit * d ≤ n ∨ E = 0) (high : n < 2 * f.unit * d) :
    f.IsNearest (n / d * 2 ^ (f.minExponent + E)) (E * f.unit + roundHalfEven n d) := by
  have d_pos : (0 : ℚ) < d := by exact_mod_cast hd
  have scale_pos : (0 : ℚ) < 2 ^ (f.minExponent + E) := by positivity
  have enough : f.unit ≤ n / d ∨ E = 0 := low.imp_left (Nat.le_div_iff_mul_le hd).2
  have small : n / d < 2 * f.unit := (Nat.div_lt_iff_lt_mul hd).2 high
  have below : ((n / d : Nat) : ℚ) ≤ n / d := Nat.cast_div_le
  have above : (n / d : ℚ) ≤ (n / d : Nat) + 1 := by
    rw [div_le_iff₀ d_pos]
    exact_mod_cast (Nat.lt_mul_of_div_lt (Nat.lt_succ_self (n / d)) hd).le
  have lower := value_add enough small.le
  have upper : f.value (E * f.unit + n / d + 1) =
      ((n / d : Nat) + 1) * 2 ^ (f.minExponent + E) := by
    rw [Nat.add_assoc, value_add (by omega) small, Nat.cast_succ]
  -- the tie of the format is the tie of the quotient, scaled
  have middle : f.value (E * f.unit + n / d) + f.value (E * f.unit + n / d + 1) =
      (2 * (n / d : Nat) + 1) * 2 ^ (f.minExponent + E) := by
    rw [lower, upper]
    ring
  rw [roundHalfEven_eq hd]
  -- rounding down or up is decided by the half, as nearness is decided by the middle
  split_ifs with half
  · apply IsNearest.of_lower
    · rw [lower]
      gcongr
    · rw [middle, ← mul_assoc, mul_lt_mul_iff_left₀ scale_pos, mul_left_inj' scale_pos.ne',
        even_units_add hf]
      exact half
  · rw [not_or, not_lt] at half
    rw [← Nat.add_assoc]
    apply IsNearest.of_upper
    · rw [upper]
      gcongr
    · rw [middle, ← mul_assoc, mul_lt_mul_iff_left₀ scale_pos, mul_left_inj' scale_pos.ne',
        even_units_add hf]
      exact half.1.lt_or_eq.imp_right fun tie => ⟨tie, fun even => half.2 ⟨tie.symm, even⟩⟩

/-- A significand with a bit to spare is that of a magnitude with even bits. -/
lemma exists_even_value (hf : 1 < f.precision) (E : Nat) {m : Nat} (hm : m < f.unit) :
    ∃ b, Even b ∧ f.value b = 2 * m * 2 ^ (f.minExponent + E) := by
  -- the significand is doubled, and the exponent lowered, until one of them can go no further
  induction E generalizing m with
  | zero =>
    refine ⟨0 * f.unit + 2 * m, (even_units_add hf _ _).2 (by omega), ?_⟩
    rw [value_add (Or.inr rfl) (by omega)]
    push_cast
    rfl
  | succ E ih =>
    rcases Nat.lt_or_ge (2 * m) f.unit with sub | normal
    · obtain ⟨b, even, value⟩ := ih sub
      refine ⟨b, even, ?_⟩
      rw [value, Nat.cast_succ, ← add_assoc, zpow_add_one₀ two_ne_zero]
      push_cast
      ring
    · refine ⟨(E + 1) * f.unit + 2 * m, (even_units_add hf _ _).2 (by omega), ?_⟩
      rw [value_add (Or.inl normal) (by omega)]
      push_cast
      rfl

/-- A number that is a magnitude is rounded to itself. -/
lemma IsNearest.eq_of_value {b r : Nat} (h : f.IsNearest (f.value b) r) : r = b := by
  have close := h.closest b
  rw [sub_self, abs_zero, abs_nonpos_iff, sub_eq_zero] at close
  exact f.value_strictMono.injective close

/-- A number that is rounded down is below the next magnitude. -/
lemma IsNearest.lt_value {v : ℚ} {r b : Nat} (h : f.IsNearest v r) (lower : r < b) :
    v < f.value b := by
  by_contra! above
  have := f.value_strictMono lower
  have close := h.closest b
  rw [abs_of_nonpos (by linarith), abs_of_nonpos (by linarith)] at close
  linarith

/-- Rounding at most doubles a number. -/
lemma IsNearest.lt_of_two_mul_lt {v : ℚ} {r b : Nat} (h : f.IsNearest v r) (nonneg : 0 ≤ v)
    (far : 2 * v < f.value b) : r < b := by
  have close := h.closest 0
  rw [value_zero, zero_sub, abs_neg, abs_of_nonneg nonneg] at close
  have := le_abs_self (f.value r - v)
  exact f.value_strictMono.lt_iff_lt.1 (by linarith)

lemma isNearest_zero (f : Format) : f.IsNearest 0 0 := by
  constructor
  · intro b
    simp
  · intro b _ close
    rw [value_zero, sub_zero, sub_zero, abs_zero, abs_nonpos_iff] at close
    exact f.value_strictMono.injective (close.trans f.value_zero.symm)

lemma nearest_eq {num den E : Nat} (hnum : 0 < num)
    (hE : max (floorLog2 num den - (f.precision - 1)) f.minExponent = f.minExponent + E) :
    f.nearest num den =
      min (E * f.unit + roundHalfEven (unscale 2 (f.minExponent + E) num den).1
        (unscale 2 (f.minExponent + E) num den).2) f.infinity := by
  simp only [nearest, if_neg hnum.ne', hE, add_sub_cancel_left, Int.toNat_natCast, unit]

/-- A ratio is rounded to the closest magnitude, or to infinity if that one is too large. -/
theorem exists_isNearest (hf : 1 < f.precision) (num : Nat) {den : Nat} (hden : 0 < den) :
    ∃ r, f.IsNearest (num / den) r ∧ f.nearest num den = min r f.infinity := by
  rcases Nat.eq_zero_or_pos num with rfl | hnum
  · refine ⟨0, ?_, by simp [nearest]⟩
    rw [Nat.cast_zero, zero_div]
    exact f.isNearest_zero
  obtain ⟨E, hE⟩ : ∃ E : Nat,
      max (floorLog2 num den - (f.precision - 1)) f.minExponent = f.minExponent + E :=
    Int.exists_add_of_le (le_max_right _ _)
  refine ⟨_, ?_, nearest_eq hnum hE⟩
  have scale_pos : (0 : ℚ) < 2 ^ (f.minExponent + E) := by positivity
  have rest_pos := unscale_den_pos (f.minExponent + E) num (by decide : 0 < 2) hden
  have quotient := unscale_div 2 (f.minExponent + E) num den
  -- from here on only the quotient of the two matters, not how they were scaled
  generalize (unscale 2 (f.minExponent + E) num den).1 = n at quotient ⊢
  generalize (unscale 2 (f.minExponent + E) num den).2 = d at rest_pos quotient ⊢
  have ratio : (num / den : ℚ) = n / d * 2 ^ (f.minExponent + E) := by
    rw [quotient, Nat.cast_ofNat, div_mul_cancel₀ _ scale_pos.ne']
  have d_pos : (0 : ℚ) < d := by exact_mod_cast rest_pos
  obtain ⟨floor, ceil⟩ := floorLog2_spec hnum hden
  rw [ratio] at floor ceil ⊢
  apply isNearest_units hf rest_pos
  · -- the exponent is the one that makes the significand full, unless that is too small
    rcases Nat.eq_zero_or_pos E with sub | normal
    · exact Or.inr sub
    · left
      have exponent : floorLog2 num den = (f.precision - 1 : Nat) + (f.minExponent + E) := by
        omega
      rw [exponent, zpow_add₀ two_ne_zero, mul_le_mul_iff_left₀ scale_pos, le_div_iff₀ d_pos,
        zpow_natCast] at floor
      exact_mod_cast floor
  · have bound : (n / d * 2 ^ (f.minExponent + E) : ℚ) <
        2 ^ ((f.precision - 1 + 1 : Nat) + (f.minExponent + E)) :=
      ceil.trans_le (zpow_le_zpow_right₀ one_le_two (by omega))
    rw [zpow_add₀ two_ne_zero (f.precision - 1 + 1 : Nat), mul_lt_mul_iff_left₀ scale_pos,
      div_lt_iff₀ d_pos, zpow_natCast, pow_succ'] at bound
    exact_mod_cast bound

/-- A ratio that is a magnitude is rounded to it. -/
lemma nearest_of_value (hf : 1 < f.precision) {num den b : Nat} (hden : 0 < den)
    (ratio : (num / den : ℚ) = f.value b) (bound : b ≤ f.infinity) : f.nearest num den = b := by
  obtain ⟨r, near, rounded⟩ := exists_isNearest hf num hden
  rw [ratio] at near
  rw [rounded, near.eq_of_value, Nat.min_eq_left bound]

lemma nearest_le (f : Format) (num den : Nat) : f.nearest num den ≤ f.infinity := by
  rw [nearest]
  split_ifs
  · exact Nat.zero_le _
  · exact Nat.min_le_right _ _

end Format

end NestedTx.Binary64
