import Mathlib.Data.Nat.Digits.Defs
import NestedTx.Text.Integer

/-!
# Numbers in decimal

The digits that a number is written with, and reading them back: a natural number, an integer with
its sign, and a number that is filled up with zeros to a fixed width.
-/

namespace NestedTx.Text

/-! ### Digits -/

lemma digit?_of_isDigit {c : Char} (h : c.isDigit = true) : digit? c = some (c.toNat - 48) := by
  rw [Char.isDigit, Bool.and_eq_true, decide_eq_true_iff, decide_eq_true_iff] at h
  rw [digit?, if_pos]
  exact h

lemma isDigit_of_mem_decimal {n : Nat} {c : Char} (h : c ∈ decimal n) : c.isDigit = true :=
  Nat.isDigit_of_mem_toDigits (by decide) (by decide) h

lemma digitsValue?_eq {cs : List Char} (h : ∀ c ∈ cs, c.isDigit = true) (acc : Nat) :
    digitsValue? acc cs = some (Nat.ofDigitChars 10 cs acc) := by
  induction cs generalizing acc with
  | nil => rw [digitsValue?, Nat.ofDigitChars_nil]
  | cons c cs ih =>
    obtain ⟨first, others⟩ := List.forall_mem_cons.1 h
    rw [digitsValue?, digit?_of_isDigit first, Nat.ofDigitChars_cons]
    exact ih others _

lemma digitsValue?_append (front back : List Char) (acc : Nat) :
    digitsValue? acc (front ++ back) =
      (digitsValue? acc front).bind fun value => digitsValue? value back := by
  induction front generalizing acc with
  | nil => rfl
  | cons c front ih =>
    rw [List.cons_append, digitsValue?, digitsValue?]
    cases digit? c with
    | none => rfl
    | some d => exact ih _

lemma digits?_of_ne_nil {cs : List Char} (h : cs ≠ []) : digits? cs = digitsValue? 0 cs := by
  simp [digits?, h]

lemma digitsValue?_decimal (n : Nat) : digitsValue? 0 (decimal n) = some n := by
  rw [digitsValue?_eq fun c => isDigit_of_mem_decimal, decimal, Nat.ofDigitChars_ten_toDigits]

/-- The digits of a number are read back. -/
lemma digits?_decimal (n : Nat) : digits? (decimal n) = some n := by
  have nonempty : decimal n ≠ [] := Nat.toDigits_ne_nil
  rw [digits?_of_ne_nil nonempty, digitsValue?_decimal]

/-- No sign stands in front of the digits of a number. -/
lemma decimal_ne_cons {n : Nat} {c : Char} {cs : List Char} (h : c.isDigit = false) :
    decimal n ≠ c :: cs := by
  intro hd
  have digit : c.isDigit = true := isDigit_of_mem_decimal (hd ▸ List.mem_cons_self)
  rw [h] at digit
  cases digit

/-! ### Integers -/

/-- The digits of an integer, behind a minus sign if it is negative. -/
def integerText (i : Int) : List Char :=
  (if i < 0 then ['-'] else []) ++ decimal i.natAbs

lemma natural?_decimal {max n : Nat} (h : n ≤ max) : natural? max (decimal n) = some n := by
  rw [natural?]
  · simp [digits?_decimal, h]
  · intro cs
    exact decimal_ne_cons (by decide)

lemma integer?_integerText {min max i : Int} (hmin : min ≤ i) (hmax : i ≤ max) :
    integer? min max (integerText i) = some i := by
  rw [integerText]
  split_ifs with neg
  · obtain ⟨n, rfl⟩ : ∃ n : Nat, i = -n := ⟨i.natAbs, by omega⟩
    simp [integer?, digits?_decimal, hmin, hmax]
  · obtain ⟨n, rfl⟩ : ∃ n : Nat, i = n := ⟨i.natAbs, by omega⟩
    rw [List.nil_append, integer?]
    · simp [digits?_decimal, hmin, hmax]
    · intro cs
      exact decimal_ne_cons (by decide)
    · intro cs
      exact decimal_ne_cons (by decide)

/-! ### Literals -/

lemma isDigit_of_digit? {c : Char} {d : Nat} (h : digit? c = some d) :
    c.isDigit = true ∧ d = c.toNat - 48 := by
  rw [digit?] at h
  split_ifs at h with range
  refine ⟨?_, (Option.some.inj h).symm⟩
  rw [Char.isDigit, Bool.and_eq_true, decide_eq_true_iff, decide_eq_true_iff]
  exact range

lemma digitsValue?_eq_some_iff {cs : List Char} {acc n : Nat} :
    digitsValue? acc cs = some n ↔
      (∀ c ∈ cs, c.isDigit = true) ∧ Nat.ofDigitChars 10 cs acc = n := by
  constructor
  · intro h
    have digits : ∀ c ∈ cs, c.isDigit = true := by
      induction cs generalizing acc with
      | nil => simp
      | cons c cs ih =>
        obtain ⟨d, hd, rest⟩ := Option.bind_eq_some_iff.1 h
        simpa using ⟨(isDigit_of_digit? hd).1, ih rest⟩
    rw [digitsValue?_eq digits] at h
    exact ⟨digits, Option.some.inj h⟩
  · rintro ⟨digits, rfl⟩
    exact digitsValue?_eq digits acc

/-- A literal of a natural number: decimal digits, with a plus sign in front or without. -/
def IsLiteral (cs : List Char) (n : Nat) : Prop :=
  ∃ ds, (cs = ds ∨ cs = '+' :: ds) ∧ ds ≠ [] ∧ (∀ d ∈ ds, d.isDigit = true) ∧
    Nat.ofDigitChars 10 ds 0 = n

lemma digits?_eq_some_iff {cs : List Char} {n : Nat} :
    digits? cs = some n ↔
      cs ≠ [] ∧ (∀ c ∈ cs, c.isDigit = true) ∧ Nat.ofDigitChars 10 cs 0 = n := by
  rw [← digitsValue?_eq_some_iff]
  by_cases empty : cs = []
  · simp [digits?, empty]
  · simp [digits?_of_ne_nil empty, empty]

/-- A natural number is read from its literals and from nothing else. -/
lemma natural?_eq_some_iff {max n : Nat} {cs : List Char} :
    natural? max cs = some n ↔ IsLiteral cs n ∧ n ≤ max := by
  rw [natural?.eq_def, Option.filter_eq_some_iff, decide_eq_true_iff]
  refine and_congr_left fun _ => ?_
  split
  · rename_i rest
    rw [digits?_eq_some_iff]
    constructor
    · intro h
      exact ⟨rest, Or.inr rfl, h⟩
    · rintro ⟨ds, rfl | signed, some, digits, value⟩
      · -- a plus sign is no digit
        exact absurd (digits '+' List.mem_cons_self) (by decide)
      · cases signed
        exact ⟨some, digits, value⟩
  · rename_i unsigned
    rw [digits?_eq_some_iff]
    constructor
    · intro h
      exact ⟨cs, Or.inl rfl, h⟩
    · rintro ⟨ds, rfl | signed, h⟩
      · exact h
      · exact absurd signed (unsigned ds)

lemma digits?_eq_none {cs : List Char} {c : Char} (hc : c ∈ cs) (h : c.isDigit = false) :
    digits? cs = none := by
  by_contra read
  obtain ⟨n, read⟩ := Option.ne_none_iff_exists'.1 read
  obtain ⟨-, digits, -⟩ := digits?_eq_some_iff.1 read
  rw [digits c hc] at h
  cases h

/-- No integer is read from a text with a character that is neither a digit nor a sign. -/
lemma integer?_eq_none {min max : Int} {cs : List Char} {c : Char} (hc : c ∈ cs)
    (h : c.isDigit = false) (plus : c ≠ '+') (minus : c ≠ '-') : integer? min max cs = none := by
  rw [integer?.eq_def]
  split
  · have inside := List.mem_of_ne_of_mem plus hc
    simp [digits?_eq_none inside h]
  · have inside := List.mem_of_ne_of_mem minus hc
    simp [digits?_eq_none inside h]
  · simp [digits?_eq_none hc h]

/-- Digits behind a minus sign or without a sign are read as the integer that they are, if it is
within the bounds. -/
lemma integer?_eq_some_iff_of_digits? {min max i : Int} {cs : List Char} {n : Nat} {p : Prop}
    [Decidable p] (h : digits? cs = some n) :
    integer? min max ((if p then ['-'] else []) ++ cs) = some i ↔
      (if p then -(n : Int) else n) = i ∧ min ≤ i ∧ i ≤ max := by
  obtain ⟨-, digits, -⟩ := digits?_eq_some_iff.1 h
  have unsigned : ∀ {c : Char} {rest : List Char}, c.isDigit = false → cs ≠ c :: rest := by
    rintro c rest sign rfl
    rw [digits c List.mem_cons_self] at sign
    cases sign
  have read : integer? min max ((if p then ['-'] else []) ++ cs) =
      (some (if p then -(n : Int) else n)).filter fun i => min ≤ i && i ≤ max := by
    split_ifs with neg
    · rw [List.singleton_append, integer?, h]
      rfl
    · rw [List.nil_append, integer?, h]
      · rfl
      · intro rest
        exact unsigned (by decide)
      · intro rest
        exact unsigned (by decide)
  rw [read, Option.filter_eq_some_iff, Option.some.injEq, Bool.and_eq_true, decide_eq_true_iff,
    decide_eq_true_iff]

/-! ### Fixed widths -/

/-- The lowest digits of a number, as many as the width says. -/
def lowDigits : (width : Nat) → Nat → List Char
  | 0, _ => []
  | width + 1, n => lowDigits width (n / 10) ++ [(n % 10).digitChar]

@[simp] lemma length_lowDigits (width n : Nat) : (lowDigits width n).length = width := by
  induction width generalizing n with
  | zero => rfl
  | succ width ih => rw [lowDigits, List.length_append, ih, List.length_singleton]

lemma lowDigits_zero (width : Nat) : lowDigits width 0 = List.replicate width '0' := by
  induction width with
  | zero => rfl
  | succ width ih =>
    rw [lowDigits, Nat.zero_div, ih, List.replicate_succ']
    rfl

/-- The digits of a width are those of a narrower one behind those of what is left. -/
lemma lowDigits_add (k width n : Nat) :
    lowDigits (k + width) n = lowDigits k (n / 10 ^ width) ++ lowDigits width n := by
  induction width generalizing n with
  | zero => simp [lowDigits]
  | succ width ih =>
    rw [← Nat.add_assoc, lowDigits, lowDigits, ih, List.append_assoc, Nat.div_div_eq_div_mul,
      ← Nat.pow_succ']

/-- Digits further up do not matter. -/
lemma lowDigits_mod (width n : Nat) : lowDigits width (n % 10 ^ width) = lowDigits width n := by
  induction width generalizing n with
  | zero => rfl
  | succ width ih =>
    rw [lowDigits, lowDigits, Nat.pow_succ', Nat.mod_mul_right_div_self, ih,
      Nat.mod_mul_right_mod]

lemma digit?_digitChar {d : Nat} (h : d < 10) : digit? d.digitChar = some d := by
  decide +revert

/-- The lowest digits of a number are read back behind what is read in front of them. -/
lemma digitsValue?_lowDigits (width n acc : Nat) :
    digitsValue? acc (lowDigits width n) = some (acc * 10 ^ width + n % 10 ^ width) := by
  induction width generalizing n with
  | zero => simp [lowDigits, digitsValue?, Nat.mod_one]
  | succ width ih =>
    have last : digit? (n % 10).digitChar = some (n % 10) :=
      digit?_digitChar (Nat.mod_lt _ (by decide))
    rw [lowDigits, digitsValue?_append, ih, Option.bind_some, digitsValue?, last]
    show some (10 * (acc * 10 ^ width + n / 10 % 10 ^ width) + n % 10) = _
    rw [Nat.pow_succ', Nat.mod_mul, Nat.mul_add, Nat.mul_left_comm, Nat.add_assoc,
      Nat.add_comm (n % 10)]

/-- Zeros in front of the digits of a number do not count. -/
lemma digits?_zerofilled (zeros n : Nat) :
    digits? (List.replicate zeros '0' ++ decimal n) = some n := by
  have nonempty : List.replicate zeros '0' ++ decimal n ≠ [] := by
    simp [decimal, Nat.toDigits_ne_nil]
  rw [digits?_of_ne_nil nonempty, ← lowDigits_zero, digitsValue?_append, digitsValue?_lowDigits,
    Nat.zero_mod, Nat.zero_mul, Option.bind_some, digitsValue?_decimal]

/-- A number is written with the digits of its upper part and those of its lower part. -/
lemma decimal_of_le {width n : Nat} (h : 10 ^ width ≤ n) :
    decimal n = decimal (n / 10 ^ width) ++ lowDigits width n := by
  induction width generalizing n with
  | zero => simp [lowDigits]
  | succ width ih =>
    have upper : 10 ^ width ≤ n / 10 := by
      rw [Nat.le_div_iff_mul_le (by decide), ← Nat.pow_succ]
      exact h
    have one : 10 ≤ n := by
      have := Nat.one_le_pow width 10 (by decide)
      omega
    rw [decimal, Nat.toDigits_of_base_le (by decide) one, ← decimal, ih upper, lowDigits,
      List.append_assoc, Nat.div_div_eq_div_mul, ← Nat.pow_succ']

/-- A number is below the power of ten with as many zeros as the number has digits. -/
lemma lt_ten_pow_length_decimal (n : Nat) : n < 10 ^ (decimal n).length := by
  by_contra! wide
  have length := congrArg List.length (decimal_of_le wide)
  have nonempty : decimal (n / 10 ^ (decimal n).length) ≠ [] := Nat.toDigits_ne_nil
  rw [List.length_append, length_lowDigits] at length
  have := List.length_pos_iff.2 nonempty
  omega

lemma isDigit_of_mem_padded {width n : Nat} {c : Char} (h : c ∈ padded width n) :
    c.isDigit = true := by
  rw [padded, List.mem_append] at h
  rcases h with zero | digit
  · rw [List.eq_of_mem_replicate zero]
    rfl
  · exact isDigit_of_mem_decimal digit

/-- A number that is too long for a width is not cut. -/
@[simp] lemma length_padded (width n : Nat) :
    (padded width n).length = max width (decimal n).length := by
  rw [padded, List.length_append, List.length_replicate]
  omega

/-- A number that fits into a width is filled up to it. -/
lemma padded_eq_lowDigits {width n : Nat} (hw : 0 < width) (h : n < 10 ^ width) :
    padded width n = lowDigits width n := by
  induction width generalizing n with
  | zero => cases hw
  | succ width ih =>
    by_cases small : n < 10
    · have one : decimal n = [n.digitChar] := Nat.toDigits_of_lt_base small
      rw [padded, one, lowDigits, Nat.div_eq_of_lt small, lowDigits_zero, Nat.mod_eq_of_lt small]
      rfl
    · have more : decimal n = decimal (n / 10) ++ [(n % 10).digitChar] :=
        Nat.toDigits_of_base_le (by decide) (Nat.not_lt.1 small)
      have upper : n / 10 < 10 ^ width := by
        rw [Nat.div_lt_iff_lt_mul (by decide), ← Nat.pow_succ]
        exact h
      have wide : 0 < width := by
        rw [Nat.pos_iff_ne_zero]
        rintro rfl
        omega
      rw [lowDigits, ← ih wide upper, padded, padded, more]
      simp only [List.length_append, List.length_singleton, Nat.add_sub_add_right,
        List.append_assoc]

end NestedTx.Text
