import Mathlib.Data.Nat.Digits.Lemmas
import NestedTx.Wire.Numeric
import NestedTx.Proofs.Text.Decimal
import NestedTx.Proofs.Wire.Integer

/-!
# Decimals, written and read

The values of the type NUMERIC, the text and the binary form in which a server sends them, and what
the binary form is read as. The groups of the binary form are the digits of the number in base
10000, from the first that is not zero to the last, and each of them is four decimal digits.
-/

namespace NestedTx

open Text

namespace Wire

/-! ### Words -/

/-- Words with the most significant byte first. -/
def wordBytes (ws : List Nat) : List UInt8 :=
  ws.flatMap (bigOfNat 2)

lemma word?_wordBytes {ws : List Nat} (h : ∀ w ∈ ws, w < 0x10000) (i : Nat) :
    word? (wordBytes ws) i = ws[i]? := by
  induction ws generalizing i with
  | nil => rfl
  | cons w ws ih =>
    obtain ⟨first, others⟩ := List.forall_mem_cons.1 h
    have bytes : wordBytes (w :: ws) =
        UInt8.ofNat (w / 256 % 256) :: UInt8.ofNat (w % 256) :: wordBytes ws := rfl
    cases i with
    | zero =>
      have whole : 256 * (w / 256) + w % 256 = w := Nat.div_add_mod w 256
      have high : w / 256 < 256 := by omega
      simp [word?, bytes, Nat.mod_eq_of_lt high, whole]
    | succ i =>
      rw [List.getElem?_cons_succ, ← ih others, word?, word?, bytes, Nat.mul_succ]
      rfl

/-- More bytes do not change a word that is there. -/
lemma word?_append {bs : List UInt8} {i w : Nat} (h : word? bs i = some w) (rest : List UInt8) :
    word? (bs ++ rest) i = some w := by
  obtain ⟨high, hh, h⟩ := Option.bind_eq_some_iff.1 h
  obtain ⟨low, hl, h⟩ := Option.bind_eq_some_iff.1 h
  obtain ⟨inside, -⟩ := List.getElem?_eq_some_iff.1 hl
  rw [word?, List.getElem?_append_left (by omega), List.getElem?_append_left inside, hh, hl]
  exact h

/-- What is read of a list is read in every way that reads its elements alike. -/
lemma mapM_of_mapM {α β : Type} {f g : α → Option β} (h : ∀ a b, f a = some b → g a = some b)
    {l : List α} {r : List β} (read : l.mapM f = some r) : l.mapM g = some r := by
  induction l generalizing r with
  | nil => exact read
  | cons a l ih =>
    rw [List.mapM_cons] at read ⊢
    obtain ⟨b, first, read⟩ := Option.bind_eq_some_iff.1 read
    obtain ⟨bs, others, read⟩ := Option.bind_eq_some_iff.1 read
    rw [h a b first, ih others]
    exact read

/-- Reading a list element by element. -/
lemma mapM_getElem? {α : Type} (l : List α) :
    (List.range l.length).mapM (fun i => l[i]?) = some l := by
  induction l with
  | nil => rfl
  | cons a l ih =>
    rw [List.length_cons, List.range_succ_eq_map, List.mapM_cons, List.mapM_map]
    show (some a).bind (fun a =>
      ((List.range l.length).mapM fun i => l[i]?).bind fun l => some (a :: l)) = _
    rw [ih]
    rfl

namespace Numeric

/-- The words of header and groups. -/
def words (n : Numeric) : List Nat :=
  n.groups.length :: (n.weight % 0x10000).toNat :: n.sign :: n.scale :: n.groups

/-- Does each part fit into a word? -/
structure Fits (n : Numeric) : Prop where
  count : n.groups.length < 0x10000
  weight : -0x8000 ≤ n.weight ∧ n.weight < 0x8000
  sign : n.sign < 0x10000
  scale : n.scale < 0x10000
  groups : ∀ g ∈ n.groups, g < 0x10000

lemma signedWord_emod {i : Int} (h : -0x8000 ≤ i ∧ i < 0x8000) :
    signedWord (i % 0x10000).toNat = i := by
  rw [signedWord]
  split_ifs <;> omega

/-- Header and groups are read back. -/
lemma ofBytes?_wordBytes {n : Numeric} (h : n.Fits) : ofBytes? (wordBytes n.words) = some n := by
  have small : ∀ w ∈ n.words, w < 0x10000 := by
    intro w hw
    simp only [words, List.mem_cons] at hw
    rcases hw with rfl | rfl | rfl | rfl | hg
    · exact h.count
    · omega
    · exact h.sign
    · exact h.scale
    · exact h.groups w hg
  have groups : (List.range n.groups.length).mapM (fun i => n.words[4 + i]?) = some n.groups := by
    rw [← mapM_getElem? n.groups]
    congr 1
    funext i
    rw [Nat.add_comm]
    rfl
  have count : n.words[0]? = some n.groups.length := rfl
  have weight : n.words[1]? = some (n.weight % 0x10000).toNat := rfl
  have sign : n.words[2]? = some n.sign := rfl
  have scale : n.words[3]? = some n.scale := rfl
  simp only [ofBytes?, word?_wordBytes small, count, weight, sign, scale, Option.bind_eq_bind,
    Option.bind_some, groups, signedWord_emod h.weight, Option.pure_def]

/-- What stands behind the groups is not looked at. -/
lemma ofBytes?_append {bs : List UInt8} {n : Numeric} (h : ofBytes? bs = some n)
    (rest : List UInt8) : ofBytes? (bs ++ rest) = some n := by
  obtain ⟨count, hc, h⟩ := Option.bind_eq_some_iff.1 h
  obtain ⟨weight, hw, h⟩ := Option.bind_eq_some_iff.1 h
  obtain ⟨sign, hs, h⟩ := Option.bind_eq_some_iff.1 h
  obtain ⟨scale, hd, h⟩ := Option.bind_eq_some_iff.1 h
  obtain ⟨groups, hg, h⟩ := Option.bind_eq_some_iff.1 h
  have same := mapM_of_mapM (fun i w (hi : word? bs (4 + i) = some w) => word?_append hi rest) hg
  rw [ofBytes?, word?_append hc, word?_append hw, word?_append hs, word?_append hd]
  simp only [Option.bind_eq_bind, Option.bind_some, same]
  exact h

lemma wholeText_ne_nil (n : Numeric) : n.wholeText ≠ [] := by
  rw [wholeText]
  split_ifs <;> simp [decimal, Nat.toDigits_ne_nil]

/-- Every sign but three is that of a number. -/
lemma text_of_number {n : Numeric} (h : n.sign ∉ [0xC000, 0xD000, 0xF000]) :
    n.text = String.ofList ((if n.sign = 0x4000 then ['-'] else []) ++ n.wholeText ++
      (if n.scale = 0 then [] else '.' :: n.fractionText)) := by
  simp only [List.mem_cons, List.not_mem_nil, or_false, not_or] at h
  rw [text, if_neg h.1, if_neg h.2.1, if_neg h.2.2]

/-! ### Groups of four digits -/

/-- Zeros that are dropped behind the last group do not count. -/
lemma getD_reverse_dropWhile {ds : List Nat} {k : Nat} (h : k < ds.length) :
    ((ds.dropWhile (· == 0)).reverse[ds.length - 1 - k]?).getD 0 = ds.getD k 0 := by
  induction ds generalizing k with
  | nil => cases h
  | cons d ds ih =>
    by_cases zero : d = 0
    · rw [List.dropWhile_cons_of_pos (by simp [zero]), List.length_cons]
      cases k with
      | zero =>
        have beyond : (ds.dropWhile (· == 0)).reverse.length ≤ ds.length + 1 - 1 - 0 := by
          rw [List.length_reverse]
          exact (List.dropWhile_suffix _).length_le
        rw [List.getElem?_eq_none beyond, List.getD_cons_zero, zero]
        rfl
      | succ k =>
        have index : ds.length + 1 - 1 - (k + 1) = ds.length - 1 - k := by omega
        rw [index, ih (Nat.lt_of_succ_lt_succ h), List.getD_cons_succ]
    · have index : (d :: ds).length - 1 - ((d :: ds).length - 1 - k) = k := by omega
      rw [List.dropWhile_cons_of_neg (by simp [zero]), List.getElem?_reverse (by omega), index,
        List.getD_eq_getElem?_getD]

/-- Four digits at a time are all the digits. -/
lemma flatMap_lowDigits (count n : Nat) :
    ((List.range count).flatMap fun i => lowDigits 4 (n / 10000 ^ (count - 1 - i))) =
      lowDigits (4 * count) n := by
  induction count with
  | zero => rfl
  | succ count ih =>
    have first : n / 10000 ^ (count + 1 - 1 - 0) = n / 10 ^ (4 * count) := by
      rw [Nat.pow_mul]
      rfl
    have others (i : Nat) : count + 1 - 1 - (i + 1) = count - 1 - i := by omega
    rw [List.range_succ_eq_map, List.flatMap_cons, List.flatMap_map, first, Nat.mul_succ,
      Nat.add_comm (4 * count), lowDigits_add 4, ← ih]
    simp only [Nat.succ_eq_add_one, others]

/-- A group is filled up to its four digits. -/
lemma padded_four (n : Nat) : padded 4 (n % 10000) = lowDigits 4 n := by
  have small : n % 10 ^ 4 < 10 ^ 4 := Nat.mod_lt n (by decide)
  rw [← lowDigits_mod]
  exact padded_eq_lowDigits (by decide) small

/-- Does the number stand for `a` units of the group that is `after` groups behind the point? -/
def Holds (n : Numeric) (after a : Nat) : Prop :=
  ∀ k : Nat, n.group (n.weight + after - k) = a / 10000 ^ k % 10000

variable {n : Numeric} {after a : Nat}

/-- The groups behind the point are the lowest digits. -/
lemma Holds.fraction (h : n.Holds after a) :
    ((List.range after).flatMap fun (i : Nat) => padded 4 (n.group (n.weight + 1 + (i : Int)))) =
      lowDigits (4 * after) a := by
  rw [← flatMap_lowDigits]
  apply List.flatMap_congr
  intro i hi
  have index : n.weight + 1 + (i : Int) = n.weight + after - ((after - 1 - i : Nat) : Int) := by
    have := List.mem_range.1 hi
    omega
  rw [index, h, padded_four]

/-- The groups in front of the point are the upper digits. -/
lemma Holds.wholeText_eq (h : n.Holds after a) {weight : Nat} (hw : n.weight = weight)
    (bound : a / 10000 ^ after < 10000 ^ (weight + 1)) :
    n.wholeText = decimal (a / 10000 ^ after / 10 ^ (4 * weight)) ++
      lowDigits (4 * weight) (a / 10000 ^ after) := by
  have group (i : Nat) (hi : i ≤ weight) :
      n.group i = a / 10000 ^ after / 10000 ^ (weight - i) % 10000 := by
    have index : (i : Int) = n.weight + after - ((after + (weight - i) : Nat) : Int) := by omega
    rw [index, h, Nat.div_div_eq_div_mul, Nat.pow_add]
  have first : n.group 0 = a / 10000 ^ after / 10000 ^ weight := by
    have small : a / 10000 ^ after / 10000 ^ weight < 10000 := Nat.div_lt_of_lt_mul bound
    rw [← Nat.mod_eq_of_lt small]
    exact group 0 (Nat.zero_le weight)
  have others : ((List.range weight).flatMap fun i => padded 4 (n.group (i + 1 : Nat))) =
      lowDigits (4 * weight) (a / 10000 ^ after) := by
    rw [← flatMap_lowDigits]
    apply List.flatMap_congr
    intro i hi
    have inside : i + 1 ≤ weight := List.mem_range.1 hi
    rw [group (i + 1) inside, padded_four, Nat.sub_add_eq, Nat.sub_right_comm]
  have power : 10000 ^ weight = 10 ^ (4 * weight) := (Nat.pow_mul 10 4 weight).symm
  rw [wholeText, if_neg (by omega), hw, Int.toNat_natCast, others, first, power]

/-- In front of the point there are no more digits than are needed. -/
lemma Holds.whole (h : n.Holds after a) {weight : Nat} (hw : n.weight = weight)
    (least : weight = 0 ∨ 10000 ^ weight ≤ a / 10000 ^ after)
    (bound : a / 10000 ^ after < 10000 ^ (weight + 1)) :
    n.wholeText = decimal (a / 10000 ^ after) := by
  rw [h.wholeText_eq hw bound]
  rcases least with rfl | least
  · simp [lowDigits]
  · have power : 10000 ^ weight = 10 ^ (4 * weight) := (Nat.pow_mul 10 4 weight).symm
    rw [power] at least
    rw [← decimal_of_le least]

end Numeric

/-! ### Values -/

/-- A value of the type NUMERIC: a whole number of units of `10 ^ -scale`, or one of the three that
are no numbers. -/
inductive Decimal where
  | number (unscaled : Int) (scale : Nat)
  | nan
  | infinity
  | negativeInfinity
  deriving Repr, DecidableEq

namespace Decimal

/-- Has the value at most 131072 digits in front of the point and 16383 behind it? The server holds
no others. -/
def Fits : Decimal → Prop
  | number unscaled scale => scale ≤ 16383 ∧ unscaled.natAbs < 10 ^ (131072 + scale)
  | nan | infinity | negativeInfinity => True

/-- The digits behind the point, and the point, which stands only in front of digits. -/
def fractionText (scale n : Nat) : List Char :=
  if scale = 0 then [] else '.' :: padded scale (n % 10 ^ scale)

/-- The text that the server sends. -/
def text : Decimal → String
  | number unscaled scale =>
    String.ofList ((if unscaled < 0 then ['-'] else []) ++ decimal (unscaled.natAbs / 10 ^ scale) ++
      fractionText scale unscaled.natAbs)
  | nan => "NaN"
  | infinity => "Infinity"
  | negativeInfinity => "-Infinity"

/-- How many groups of four digits hold the digits behind the point. -/
def groupsAfter (scale : Nat) : Nat :=
  (scale + 3) / 4

/-- A number without its sign in units of the last of these groups. -/
def units (scale n : Nat) : Nat :=
  n * 10 ^ (4 * groupsAfter scale - scale)

/-- The header and the groups that the server sends. There are no zeros at either end of the
groups. -/
def numeric : Decimal → Numeric
  | number unscaled scale =>
    let groups := Nat.digits 10000 (units scale unscaled.natAbs)
    { weight := if groups = [] then 0 else groups.length - 1 - groupsAfter scale
      sign := if unscaled < 0 then 0x4000 else 0
      scale := scale
      groups := (groups.dropWhile (· == 0)).reverse }
  | nan => ⟨0, 0xC000, 0, []⟩
  | infinity => ⟨0, 0xD000, 32, []⟩
  | negativeInfinity => ⟨0, 0xF000, 32, []⟩

example : (number 12345678 3).numeric = ⟨1, 0, 3, [1, 2345, 6780]⟩ := rfl

/-- The binary form that the server sends. -/
def bytes (d : Decimal) : List UInt8 :=
  wordBytes d.numeric.words

variable {unscaled : Int} {scale : Nat}

lemma le_groupsAfter (scale : Nat) : scale ≤ 4 * groupsAfter scale := by
  rw [groupsAfter]
  omega

/-- The units in front of the point. -/
lemma units_div (scale n : Nat) : units scale n / 10000 ^ groupsAfter scale = n / 10 ^ scale := by
  have power : 10000 ^ groupsAfter scale =
      10 ^ scale * 10 ^ (4 * groupsAfter scale - scale) := by
    rw [← Nat.pow_add, Nat.add_sub_cancel' (le_groupsAfter scale), Nat.pow_mul]
  rw [units, power, Nat.mul_div_mul_right _ _ (Nat.pow_pos (by decide))]

/-- The digits of the units begin with the digits behind the point. -/
lemma take_units (scale n : Nat) :
    (lowDigits (4 * groupsAfter scale) (units scale n)).take scale = lowDigits scale n := by
  have width : 4 * groupsAfter scale = scale + (4 * groupsAfter scale - scale) := by
    have := le_groupsAfter scale
    omega
  have take : ∀ k, (lowDigits (scale + k) (n * 10 ^ k)).take scale = lowDigits scale n := by
    intro k
    rw [lowDigits_add, Nat.mul_div_cancel _ (Nat.pow_pos (by decide)),
      List.take_left' (length_lowDigits scale n)]
  rw [units, width, Nat.add_sub_cancel_left]
  exact take _

/-- The groups that are sent stand for the units. -/
lemma holds_numeric (unscaled : Int) (scale : Nat) :
    (number unscaled scale).numeric.Holds (groupsAfter scale) (units scale unscaled.natAbs) := by
  intro k
  rw [← Nat.getD_digits _ k (by decide : 2 ≤ 10000), numeric, Numeric.group]
  generalize Nat.digits 10000 (units scale unscaled.natAbs) = ds
  by_cases empty : ds = []
  · simp [empty]
  have weight : (ds.length : Int) - 1 - groupsAfter scale + groupsAfter scale - k =
      (ds.length : Int) - 1 - k := by omega
  simp only [if_neg empty, weight]
  rcases Nat.lt_or_ge k ds.length with inside | beyond
  · have index : ((ds.length : Int) - 1 - k).toNat = ds.length - 1 - k := by omega
    rw [if_neg (by omega), index, Numeric.getD_reverse_dropWhile inside]
  · rw [if_pos (by omega), List.getD_eq_getElem?_getD, List.getElem?_eq_none beyond]
    rfl

lemma weight_numeric (unscaled : Int) (scale : Nat) :
    (number unscaled scale).numeric.weight =
      if units scale unscaled.natAbs = 0 then 0
      else ((Nat.digits 10000 (units scale unscaled.natAbs)).length : Int) - 1 -
        groupsAfter scale := by
  simp only [numeric, Nat.digits_eq_nil_iff_eq_zero]

lemma wholeText_numeric (unscaled : Int) (scale : Nat) :
    (number unscaled scale).numeric.wholeText = decimal (unscaled.natAbs / 10 ^ scale) := by
  have holds := holds_numeric unscaled scale
  have weight := weight_numeric unscaled scale
  rw [← units_div]
  generalize (number unscaled scale).numeric = sent at holds weight ⊢
  generalize units scale unscaled.natAbs = n at holds weight ⊢
  by_cases zero : n = 0
  · rw [if_pos zero] at weight
    apply holds.whole weight (Or.inl rfl)
    rw [zero, Nat.zero_div]
    decide
  rw [if_neg zero] at weight
  -- a negative weight says that no group stands before the point
  rcases Int.lt_or_le sent.weight 0 with neg | pos
  · have small : n < 10000 ^ groupsAfter scale :=
      (Nat.digits_length_le_iff (by decide) n).1 (by omega)
    rw [Numeric.wholeText, if_pos neg, Nat.div_eq_of_lt small]
    rfl
  · obtain ⟨w, hw⟩ := Int.eq_ofNat_of_zero_le pos
    apply holds.whole hw
    · right
      rw [Nat.le_div_iff_mul_le (Nat.pow_pos (by decide)), ← Nat.pow_add]
      exact (Nat.lt_digits_length_iff (by decide) n).1 (by omega)
    · rw [Nat.div_lt_iff_lt_mul (Nat.pow_pos (by decide)), ← Nat.pow_add]
      exact (Nat.digits_length_le_iff (by decide) n).1 (by omega)

lemma fractionText_numeric (unscaled : Int) (scale : Nat) :
    (if scale = 0 then [] else '.' :: (number unscaled scale).numeric.fractionText) =
      fractionText scale unscaled.natAbs := by
  have holds := (holds_numeric unscaled scale).fraction
  have digits : (number unscaled scale).numeric.fractionText =
      lowDigits scale unscaled.natAbs := by
    rw [← take_units, ← holds]
    rfl
  rw [fractionText, digits]
  split_ifs with whole
  · rfl
  · have small : unscaled.natAbs % 10 ^ scale < 10 ^ scale :=
      Nat.mod_lt _ (Nat.pow_pos (by decide))
    rw [padded_eq_lowDigits (Nat.pos_of_ne_zero whole) small, lowDigits_mod]

/-- The text of the groups that the server sends is the text that it sends. -/
lemma text_numeric (d : Decimal) : d.numeric.text = d.text := by
  cases d with
  | number unscaled scale =>
    have sign : (number unscaled scale).numeric.sign = if unscaled < 0 then 0x4000 else 0 := rfl
    have places : (number unscaled scale).numeric.scale = scale := rfl
    rw [Numeric.text, wholeText_numeric, places, fractionText_numeric, sign, text]
    by_cases neg : unscaled < 0
    · simp [neg]
    · simp [neg]
  | nan => rfl
  | infinity => rfl
  | negativeInfinity => rfl

lemma length_digits_units {scale n : Nat} (h : n < 10 ^ (131072 + scale)) :
    (Nat.digits 10000 (units scale n)).length ≤ 32768 + groupsAfter scale := by
  have places := le_groupsAfter scale
  have digits : 131072 + scale + (4 * groupsAfter scale - scale) =
      4 * (32768 + groupsAfter scale) := by omega
  have size : 10 ^ (4 * (32768 + groupsAfter scale)) = 10000 ^ (32768 + groupsAfter scale) :=
    Nat.pow_mul 10 4 _
  rw [Nat.digits_length_le_iff (by decide), units, ← size, ← digits, Nat.pow_add _ (131072 + scale)]
  exact Nat.mul_lt_mul_of_pos_right h (Nat.pow_pos (by decide))

/-- What the server holds fits into the words of the header. -/
lemma fits_numeric {d : Decimal} (h : d.Fits) : d.numeric.Fits := by
  cases d with
  | number unscaled scale =>
    obtain ⟨places, size⟩ := h
    have length := length_digits_units size
    have weight := weight_numeric unscaled scale
    have after : groupsAfter scale ≤ 4096 := by
      rw [groupsAfter]
      omega
    have sent : ((Nat.digits 10000 (units scale unscaled.natAbs)).dropWhile (· == 0)).reverse =
      (number unscaled scale).numeric.groups := rfl
    constructor
    · have := ((Nat.digits 10000 (units scale unscaled.natAbs)).dropWhile_suffix (· == 0)).length_le
      rw [← sent, List.length_reverse]
      omega
    · rw [weight]
      split_ifs <;> omega
    · show (if unscaled < 0 then 0x4000 else 0) < 0x10000
      split_ifs <;> decide
    · show scale < 0x10000
      omega
    · intro g hg
      rw [← sent, List.mem_reverse] at hg
      have digit := Nat.digits_lt_base (by decide) ((List.dropWhile_suffix _).subset hg)
      omega
  | nan => constructor <;> decide
  | infinity => constructor <;> decide
  | negativeInfinity => constructor <;> decide

lemma fits_of_lt {digits : Nat} (hs : scale ≤ 16383) (hd : digits ≤ 131072)
    (h : unscaled.natAbs < 10 ^ digits) : (number unscaled scale).Fits := by
  refine ⟨hs, Nat.lt_of_lt_of_le h (Nat.pow_le_pow_right (by decide) ?_)⟩
  omega

/-- The text of the binary form that the server sends. -/
lemma numericText?_bytes {d : Decimal} (h : d.Fits) : numericText? d.bytes = some d.text := by
  rw [numericText?, bytes, Numeric.ofBytes?_wordBytes (fits_numeric h), Option.map_some,
    text_numeric]

end Decimal

end Wire

end NestedTx
