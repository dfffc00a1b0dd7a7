import Mathlib.Algebra.BigOperators.Group.List.Basic
import Mathlib.Algebra.Order.BigOperators.Group.List
import Mathlib.Algebra.Order.Field.Power
import Mathlib.Algebra.Order.Floor.Semifield
import Mathlib.Data.Rat.Floor
import Mathlib.Tactic.FieldSimp
import Mathlib.Tactic.Linarith
import Mathlib.Tactic.Positivity
import Mathlib.Tactic.Ring
import NestedTx.Proofs.Wire.Numeric

/-!
# Decimals, rendered exactly

The groups of a binary NUMERIC are the digits of its value in base 10000, wherever the point is. So
the text of any groups is their value, cut off behind the digits that the scale asks for; and for a
number that has no more digits than that it is the text that the server would have sent.
-/

namespace NestedTx.Wire

open Text

namespace Numeric

/-- The value of the groups, without the sign. -/
def value (n : Numeric) : ℚ :=
  (n.groups.mapIdx fun i d => (d : ℚ) * 10000 ^ (n.weight - i)).sum

variable {n : Numeric} {weight : Int} {sign scale d : Nat} {ds : List Nat}

@[simp] lemma value_nil : (⟨weight, sign, scale, []⟩ : Numeric).value = 0 := rfl

lemma value_cons : (⟨weight, sign, scale, d :: ds⟩ : Numeric).value =
    d * 10000 ^ weight + (⟨weight - 1, sign, scale, ds⟩ : Numeric).value := by
  simp [value, List.mapIdx_cons, Int.sub_sub, Int.add_comm]

lemma value_nonneg (n : Numeric) : 0 ≤ n.value := by
  obtain ⟨weight, sign, scale, groups⟩ := n
  induction groups generalizing weight with
  | nil => rfl
  | cons d ds ih =>
    have rest := ih (weight - 1)
    rw [value_cons]
    positivity

/-- The groups are the digits of the value, which are less than one unit further up. -/
lemma value_lt {n : Numeric} (h : ∀ g ∈ n.groups, g < 10000) :
    n.value < 10000 ^ (n.weight + 1) := by
  obtain ⟨weight, sign, scale, groups⟩ := n
  induction groups generalizing weight with
  | nil =>
    rw [value_nil]
    positivity
  | cons d ds ih =>
    obtain ⟨first, others⟩ := List.forall_mem_cons.1 h
    have rest := ih (weight - 1) others
    have digit : (d : ℚ) + 1 ≤ 10000 := by exact_mod_cast first
    rw [value_cons]
    simp only [sub_add_cancel] at rest
    calc (d : ℚ) * 10000 ^ weight + (⟨weight - 1, sign, scale, ds⟩ : Numeric).value
        < d * 10000 ^ weight + 10000 ^ weight := by linarith
      _ = (d + 1) * 10000 ^ weight := by ring
      _ ≤ 10000 * 10000 ^ weight := by gcongr
      _ = 10000 ^ (weight + 1) := by rw [zpow_add_one₀ (by norm_num), mul_comm]

lemma group_of_neg {g : Int} (h : g < 0) : n.group g = 0 := by
  rw [group, if_pos h]

lemma group_natCast (i : Nat) : n.group i = n.groups.getD i 0 := by
  rw [group, if_neg (by omega), Int.toNat_natCast, List.getD_eq_getElem?_getD]

/-- What is left of a value behind the groups that are counted is less than one. -/
lemma floor_value_mul_of_neg {n : Numeric} (h : ∀ g ∈ n.groups, g < 10000) {j : Int}
    (hj : n.weight + j < 0) : ⌊n.value * 10000 ^ j⌋₊ = 0 := by
  rw [Nat.floor_eq_zero]
  calc n.value * 10000 ^ j < 10000 ^ (n.weight + 1) * 10000 ^ j := by
        have := value_lt h
        gcongr
    _ = 10000 ^ (n.weight + 1 + j) := (zpow_add₀ (by norm_num) _ _).symm
    _ ≤ 1 := zpow_le_one_of_nonpos₀ (by norm_num) (by omega)

/-- Each group is a digit of the value in base 10000. -/
lemma group_eq_floor {n : Numeric} (h : ∀ g ∈ n.groups, g < 10000) (j : Int) :
    n.group (n.weight + j) = ⌊n.value * 10000 ^ j⌋₊ % 10000 := by
  obtain ⟨weight, sign, scale, groups⟩ := n
  rcases Int.lt_or_le (weight + j) 0 with neg | pos
  · rw [group_of_neg neg, floor_value_mul_of_neg h neg]
  obtain ⟨k, hk⟩ := Int.eq_ofNat_of_zero_le pos
  -- the first group is the one before the point when `k` is 0, and else lies above it
  induction groups generalizing weight k with
  | nil => simp [group]
  | cons d ds ih =>
    obtain ⟨first, others⟩ := List.forall_mem_cons.1 h
    have below : 0 ≤ (⟨weight - 1, sign, scale, ds⟩ : Numeric).value * 10000 ^ j := by
      have := value_nonneg ⟨weight - 1, sign, scale, ds⟩
      positivity
    have split : (⟨weight, sign, scale, d :: ds⟩ : Numeric).value * 10000 ^ j =
        (⟨weight - 1, sign, scale, ds⟩ : Numeric).value * 10000 ^ j + (d * 10000 ^ k : Nat) := by
      rw [value_cons, add_mul, mul_assoc, ← zpow_add₀ (by norm_num), hk]
      push_cast
      rw [zpow_natCast, add_comm]
    rw [split, Nat.floor_add_natCast below]
    show Numeric.group _ (weight + j) = _
    rw [hk]
    cases k with
    | zero =>
      have rest : ⌊(⟨weight - 1, sign, scale, ds⟩ : Numeric).value * 10000 ^ j⌋₊ = 0 :=
        floor_value_mul_of_neg others (by show weight - 1 + j < 0; omega)
      rw [rest, group_natCast]
      simp [Nat.mod_eq_of_lt first]
    | succ k =>
      have next := ih (weight - 1) others (by omega) k (by omega)
      have index : weight - 1 + j = (k : Int) := by omega
      rw [Nat.pow_succ, ← Nat.mul_assoc, Nat.add_mul_mod_self_right, ← next]
      show _ = Numeric.group _ (weight - 1 + j)
      rw [index, group_natCast, group_natCast]
      rfl

/-- Cutting the last digits off leaves the digits in front of them. -/
lemma floor_mul_pow_div (x : ℚ) (j k : Nat) :
    ⌊x * 10 ^ (j + k)⌋₊ / 10 ^ k = ⌊x * 10 ^ j⌋₊ := by
  have shift : x * 10 ^ (j + k) = x * 10 ^ j * (10 ^ k : Nat) := by
    push_cast
    ring
  rw [shift, Nat.mul_cast_floor_div_cancel (pow_ne_zero k (by decide))]

/-- The groups stand for the value, cut behind any group. -/
lemma holds_floor {n : Numeric} (h : ∀ g ∈ n.groups, g < 10000) (after : Nat) :
    n.Holds after ⌊n.value * 10000 ^ after⌋₊ := by
  intro k
  have index : n.weight + after - k = n.weight + (after - k : Int) := by omega
  have shift : n.value * 10000 ^ after =
      n.value * 10000 ^ (after - k : Int) * (10000 ^ k : Nat) := by
    rw [zpow_sub₀ (by norm_num), zpow_natCast, zpow_natCast]
    push_cast
    field_simp
  rw [index, group_eq_floor h, shift, Nat.mul_cast_floor_div_cancel (pow_ne_zero k (by decide))]

/-- Digits behind the point are those of the value in units of the scale. -/
lemma fractionText_eq {n : Numeric} (h : ∀ g ∈ n.groups, g < 10000) :
    n.fractionText = lowDigits n.scale ⌊n.value * 10 ^ n.scale⌋₊ := by
  obtain ⟨k, hk⟩ : ∃ k, 4 * ((n.scale + 3) / 4) = n.scale + k :=
    ⟨4 * ((n.scale + 3) / 4) - n.scale, by omega⟩
  have power : (10000 : ℚ) ^ ((n.scale + 3) / 4) = 10 ^ (n.scale + k) := by
    rw [← hk, pow_mul]
    norm_num
  rw [fractionText, (holds_floor h _).fraction, power, hk, lowDigits_add, floor_mul_pow_div,
    List.take_left' (length_lowDigits _ _)]

/-- The digits in front of the point are the upper digits of the value. -/
lemma wholeText_eq {n : Numeric} (h : ∀ g ∈ n.groups, g < 10000) {weight : Nat}
    (hw : n.weight = weight) :
    n.wholeText =
      decimal (⌊n.value⌋₊ / 10 ^ (4 * weight)) ++ lowDigits (4 * weight) ⌊n.value⌋₊ := by
  have holds := holds_floor h 0
  have bound : ⌊n.value⌋₊ < 10000 ^ (weight + 1) := by
    have below := value_lt h
    rw [hw] at below
    rw [Nat.floor_lt (value_nonneg n)]
    exact_mod_cast below
  simp only [pow_zero, mul_one] at holds
  simpa using holds.wholeText_eq hw (by simpa using bound)

lemma wholeText_of_neg {n : Numeric} (h : ∀ g ∈ n.groups, g < 10000) (neg : n.weight < 0) :
    n.wholeText = decimal ⌊n.value⌋₊ := by
  have none := floor_value_mul_of_neg h (j := 0) (by omega)
  rw [zpow_zero, mul_one] at none
  rw [wholeText, if_pos neg, none]
  rfl

/-- The digits in front of the point are read as the value without its fraction. -/
lemma digitsValue?_wholeText {n : Numeric} (h : ∀ g ∈ n.groups, g < 10000) :
    digitsValue? 0 n.wholeText = some ⌊n.value⌋₊ := by
  rcases Int.lt_or_le n.weight 0 with neg | pos
  · rw [wholeText_of_neg h neg, digitsValue?_decimal]
  · obtain ⟨weight, hw⟩ := Int.eq_ofNat_of_zero_le pos
    rw [wholeText_eq h hw, digitsValue?_append, digitsValue?_decimal, Option.bind_some,
      digitsValue?_lowDigits, Nat.div_add_mod']

/-- No zero stands in front of the digits if the first group is none. -/
lemma wholeText_of_first {n : Numeric} (h : ∀ g ∈ n.groups, g < 10000)
    (first : n.group 0 ≠ 0 ∨ n.weight ≤ 0) : n.wholeText = decimal ⌊n.value⌋₊ := by
  rcases Int.lt_or_le n.weight 0 with neg | pos
  · exact wholeText_of_neg h neg
  obtain ⟨weight, hw⟩ := Int.eq_ofNat_of_zero_le pos
  rw [wholeText_eq h hw]
  cases weight with
  | zero => simp [lowDigits]
  | succ weight =>
    have digit := holds_floor h 0 (weight + 1)
    have index : n.weight + (0 : Nat) - (weight + 1 : Nat) = 0 := by omega
    rw [index, pow_zero, mul_one] at digit
    have upper : ⌊n.value⌋₊ / 10000 ^ (weight + 1) ≠ 0 := by
      intro none
      rw [none] at digit
      rcases first with nonzero | nonpos
      · exact nonzero digit
      · omega
    have power : 10000 ^ (weight + 1) = 10 ^ (4 * (weight + 1)) := Nat.pow_mul 10 4 _ |>.symm
    rw [power] at upper
    exact (decimal_of_le (Nat.div_ne_zero_iff.1 upper).2).symm

/-- All digits together are the value in units of the scale. -/
lemma digits?_text {n : Numeric} (h : ∀ g ∈ n.groups, g < 10000) :
    digits? (n.wholeText ++ n.fractionText) = some ⌊n.value * 10 ^ n.scale⌋₊ := by
  have upper : ⌊n.value⌋₊ = ⌊n.value * 10 ^ n.scale⌋₊ / 10 ^ n.scale := by
    have cut := floor_mul_pow_div n.value 0 n.scale
    rw [pow_zero, mul_one, zero_add] at cut
    exact cut.symm
  have nonempty : n.wholeText ++ n.fractionText ≠ [] := by
    simp [wholeText_ne_nil]
  rw [digits?_of_ne_nil nonempty, digitsValue?_append, digitsValue?_wholeText h,
    Option.bind_some, fractionText_eq h, digitsValue?_lowDigits, upper, Nat.div_add_mod']

/-- The sign, the digits, and a point in front of those behind it, if there are any. -/
lemma text_of_sign {n : Numeric} (h : n.sign = 0 ∨ n.sign = 0x4000) :
    n.text = String.ofList ((if n.sign = 0x4000 then ['-'] else []) ++ n.wholeText ++
      (if n.scale = 0 then [] else '.' :: n.fractionText)) := by
  apply text_of_number
  rcases h with h | h <;> simp [h]

end Numeric

/-- A binary NUMERIC is rendered exactly. Whatever the weight, the number of groups and the scale
are, the text of groups of four digits is a minus sign if the header has one, digits in front of the
point, and as many behind it as the scale says; all digits together are the value in units of the
scale, rounded down; and the digits in front of the point do not begin with a zero too many if the
first group is not zero or counts no more than ones. Of every number that the server sends the text
is the one that the server has for it. -/
theorem numericText?_exact :
    (∀ {n : Numeric}, n.Fits → (n.sign = 0 ∨ n.sign = 0x4000) → (∀ g ∈ n.groups, g < 10000) →
      ∀ rest : List UInt8, ∃ whole fraction,
        numericText? (wordBytes n.words ++ rest) =
          some (String.ofList ((if n.sign = 0x4000 then ['-'] else []) ++ whole ++
            (if n.scale = 0 then [] else '.' :: fraction))) ∧
        whole ≠ [] ∧ fraction.length = n.scale ∧
        digits? (whole ++ fraction) = some ⌊n.value * 10 ^ n.scale⌋₊ ∧
        (n.group 0 ≠ 0 ∨ n.weight ≤ 0 → whole = decimal ⌊n.value⌋₊)) ∧
    ∀ {unscaled : Int} {scale : Nat}, (Decimal.number unscaled scale).Fits →
      numericText? (Decimal.number unscaled scale).bytes =
        some (Decimal.number unscaled scale).text := by
  refine ⟨?rendered, fun fits => Decimal.numericText?_bytes fits⟩
  case rendered =>
    intro n fits sign groups rest
    refine ⟨n.wholeText, n.fractionText, ?_, n.wholeText_ne_nil, ?_, n.digits?_text groups,
      n.wholeText_of_first groups⟩
    · rw [numericText?, Numeric.ofBytes?_append (Numeric.ofBytes?_wordBytes fits), Option.map_some,
        Numeric.text_of_sign sign]
    · rw [Numeric.fractionText_eq groups, length_lowDigits]

/-- A negative number far behind the point whose last group is cut, with a byte too many. -/
theorem numericText?_exact_cut :
    ∃ whole fraction,
      numericText? (wordBytes (⟨-2, 0x4000, 6, [1234]⟩ : Numeric).words ++ [0]) =
        some (String.ofList (['-'] ++ whole ++ '.' :: fraction)) ∧
      fraction.length = 6 ∧ digits? (whole ++ fraction) = some 12 ∧ whole = ['0'] := by
  have fits : (⟨-2, 0x4000, 6, [1234]⟩ : Numeric).Fits := by constructor <;> decide
  obtain ⟨rendered, -⟩ := numericText?_exact
  obtain ⟨whole, fraction, text, -, length, digits, first⟩ :=
    rendered fits (Or.inr rfl) (by decide) [0]
  have value : (⟨-2, 0x4000, 6, [1234]⟩ : Numeric).value = 1234 / 100000000 := by
    norm_num [Numeric.value_cons]
  have units : ⌊(1234 / 100000000 : ℚ) * 10 ^ 6⌋₊ = 12 := by
    rw [Nat.floor_eq_iff (by norm_num)]
    norm_num
  have ones : ⌊(1234 / 100000000 : ℚ)⌋₊ = 0 := by
    rw [Nat.floor_eq_zero]
    norm_num
  rw [value] at digits first
  rw [units] at digits
  rw [ones] at first
  exact ⟨whole, fraction, text, length, digits, first (Or.inr (by decide))⟩

end NestedTx.Wire
