import Mathlib.Data.List.GetD
import NestedTx.Proofs.Wire.Numeric

/-!
# Headers of any kind

What a binary NUMERIC is read as if nothing is known of its bytes. The header says how many bytes are
looked at, and if they are there every header is read: a weight out of any proportion, a sign that
there is not, groups of five digits.
-/

namespace NestedTx.Wire

open Text

variable {bs bs' : List UInt8} {i n : Nat}

/-! ### Words -/

/-- The word at an index. Bytes that are missing count as zero. -/
def wordAt (bs : List UInt8) (i : Nat) : Nat :=
  256 * (bs.getD (2 * i) 0).toNat + (bs.getD (2 * i + 1) 0).toNat

lemma wordAt_lt (bs : List UInt8) (i : Nat) : wordAt bs i < 0x10000 := by
  have high := (bs.getD (2 * i) 0).toNat_lt
  have low := (bs.getD (2 * i + 1) 0).toNat_lt
  rw [wordAt]
  omega

lemma getElem?_eq_getD (h : i < bs.length) : bs[i]? = some (bs.getD i 0) := by
  rw [List.getD_eq_getElem _ _ h, List.getElem?_eq_getElem h]

/-- A word is read if both of its bytes are there. -/
lemma word?_eq (bs : List UInt8) (i : Nat) :
    word? bs i = if 2 * i + 2 ≤ bs.length then some (wordAt bs i) else none := by
  split_ifs with inside
  · rw [word?, getElem?_eq_getD (by omega), getElem?_eq_getD (by omega)]
    rfl
  · have low : bs[2 * i + 1]? = none := List.getElem?_eq_none (by omega)
    rw [word?, low]
    cases bs[2 * i]? <;> rfl

lemma getD_congr (same : bs'.take n = bs.take n) (h : i < n) : bs'.getD i 0 = bs.getD i 0 := by
  have own (l : List UInt8) : l[i]? = (l.take n)[i]? := by
    rw [List.getElem?_take, if_pos h]
  rw [List.getD_eq_getElem?_getD, List.getD_eq_getElem?_getD, own bs', own bs, same]

/-- Bytes behind a word do not count. -/
lemma wordAt_congr (same : bs'.take n = bs.take n) (h : 2 * i + 2 ≤ n) :
    wordAt bs' i = wordAt bs i := by
  rw [wordAt, wordAt, getD_congr same (by omega), getD_congr same (by omega)]

lemma le_length_congr (same : bs'.take n = bs.take n) : n ≤ bs'.length ↔ n ≤ bs.length := by
  have lengths := congrArg List.length same
  rw [List.length_take, List.length_take] at lengths
  omega

/-! ### Header and groups -/

namespace Numeric

/-- How many bytes header and groups take up. -/
def size (bs : List UInt8) : Nat :=
  8 + 2 * wordAt bs 0

/-- What header and groups say. -/
def sent (bs : List UInt8) : Numeric where
  weight := signedWord (wordAt bs 1)
  sign := wordAt bs 2
  scale := wordAt bs 3
  groups := (List.range (wordAt bs 0)).map fun i => wordAt bs (4 + i)

/-- The groups are read if the last one is there. -/
lemma mapM_word? (header : 8 ≤ bs.length) (count : Nat) :
    (List.range count).mapM (fun i => word? bs (4 + i)) =
      if 8 + 2 * count ≤ bs.length then
        some ((List.range count).map fun i => wordAt bs (4 + i))
      else none := by
  induction count with
  | zero =>
    rw [if_pos (by omega)]
    rfl
  | succ count ih =>
    rw [List.range_succ, List.mapM_append, ih, List.mapM_cons, List.mapM_nil, word?_eq,
      List.map_append]
    by_cases inside : 8 + 2 * (count + 1) ≤ bs.length
    · rw [if_pos (by omega), if_pos (by omega), if_pos inside]
      rfl
    · rw [if_neg (by omega : ¬2 * (4 + count) + 2 ≤ bs.length), if_neg inside]
      split_ifs <;> rfl

/-- Header and groups are read whatever they are, if they are there. -/
lemma ofBytes?_eq (bs : List UInt8) :
    ofBytes? bs = if size bs ≤ bs.length then some (sent bs) else none := by
  by_cases header : 8 ≤ bs.length
  · rw [ofBytes?, word?_eq, word?_eq, word?_eq, word?_eq, if_pos (by omega), if_pos (by omega),
      if_pos (by omega), if_pos (by omega)]
    simp only [Option.bind_eq_bind, Option.bind_some, mapM_word? header]
    rw [size]
    split_ifs <;> rfl
  · have last : word? bs 3 = none := by
      rw [word?_eq, if_neg (by omega)]
    rw [ofBytes?, last, if_neg (by rw [size]; omega)]
    cases word? bs 0 <;> cases word? bs 1 <;> cases word? bs 2 <;> rfl

/-- Every part fits into its word, since it comes from one. -/
lemma fits_sent (bs : List UInt8) : (sent bs).Fits where
  count := by
    rw [sent, List.length_map, List.length_range]
    exact wordAt_lt bs 0
  weight := by
    have := wordAt_lt bs 1
    show -0x8000 ≤ signedWord (wordAt bs 1) ∧ signedWord (wordAt bs 1) < 0x8000
    rw [signedWord]
    split_ifs <;> omega
  sign := wordAt_lt bs 2
  scale := wordAt_lt bs 3
  groups := by
    intro g hg
    obtain ⟨i, -, rfl⟩ := List.mem_map.1 hg
    exact wordAt_lt bs (4 + i)

lemma sent_congr (same : bs'.take (size bs) = bs.take (size bs)) : sent bs' = sent bs := by
  have word (i : Nat) (h : 2 * i + 2 ≤ size bs) : wordAt bs' i = wordAt bs i :=
    wordAt_congr same h
  have count : wordAt bs' 0 = wordAt bs 0 := word 0 (by rw [size]; omega)
  have groups : (List.range (wordAt bs 0)).map (fun i => wordAt bs' (4 + i)) =
      (List.range (wordAt bs 0)).map fun i => wordAt bs (4 + i) := by
    apply List.map_congr_left
    intro i hi
    have inside := List.mem_range.1 hi
    exact word (4 + i) (by rw [size]; omega)
  rw [sent, sent, count, groups, word 1 (by rw [size]; omega), word 2 (by rw [size]; omega),
    word 3 (by rw [size]; omega)]

/-! ### Digits -/

lemma Fits.group_lt {n : Numeric} (h : n.Fits) (g : Int) : n.group g < 0x10000 := by
  rw [group]
  split_ifs
  · decide
  · cases sent : n.groups[g.toNat]? with
    | none => exact (by decide : 0 < 0x10000)
    | some d => exact h.groups d (List.mem_of_getElem? sent)

/-- The digits of the first groups behind the point, with as many digits to a group as it has. -/
def fraction (n : Numeric) (count : Nat) : List Char :=
  (List.range count).flatMap fun (i : Nat) => padded 4 (n.group (n.weight + 1 + (i : Int)))

lemma fraction_succ (n : Numeric) (count : Nat) :
    n.fraction (count + 1) =
      n.fraction count ++ padded 4 (n.group (n.weight + 1 + (count : Int))) := by
  rw [fraction, fraction, List.range_succ, List.flatMap_append, List.flatMap_singleton]

/-- A group has at least four digits, and more than that if it is too large for one. -/
lemma le_length_fraction (n : Numeric) (count : Nat) :
    4 * count ≤ (n.fraction count).length := by
  induction count with
  | zero => exact Nat.zero_le _
  | succ count ih =>
    rw [fraction_succ, List.length_append, length_padded]
    omega

lemma prefix_fraction (n : Numeric) {count more : Nat} (h : count ≤ more) :
    n.fraction count <+: n.fraction more := by
  induction more, h using Nat.le_induction with
  | base => exact List.prefix_rfl
  | succ more _ ih =>
    rw [fraction_succ]
    exact ih.trans (List.prefix_append _ _)

/-- Once there are digits enough, more groups change nothing. -/
lemma take_fraction {n : Numeric} {count : Nat} (h : n.scale ≤ (n.fraction count).length) :
    (n.fraction count).take n.scale = n.fractionText := by
  have enough : n.scale ≤ (n.fraction ((n.scale + 3) / 4)).length := by
    have := n.le_length_fraction ((n.scale + 3) / 4)
    omega
  show _ = (n.fraction ((n.scale + 3) / 4)).take n.scale
  rcases Nat.le_total count ((n.scale + 3) / 4) with fewer | more
  · obtain ⟨rest, whole⟩ := n.prefix_fraction fewer
    rw [← whole, List.take_append_of_le_length h]
  · obtain ⟨rest, whole⟩ := n.prefix_fraction more
    rw [← whole, List.take_append_of_le_length enough]

lemma length_fractionText (n : Numeric) : n.fractionText.length = n.scale := by
  have enough := n.le_length_fraction ((n.scale + 3) / 4)
  show ((n.fraction ((n.scale + 3) / 4)).take n.scale).length = n.scale
  rw [List.length_take]
  omega

lemma isDigit_of_mem_fraction {n : Numeric} {count : Nat} {c : Char} (h : c ∈ n.fraction count) :
    c.isDigit = true := by
  obtain ⟨i, -, hc⟩ := List.mem_flatMap.1 h
  exact isDigit_of_mem_padded hc

lemma isDigit_of_mem_wholeText {n : Numeric} {c : Char} (h : c ∈ n.wholeText) :
    c.isDigit = true := by
  rw [wholeText] at h
  split_ifs at h
  · rw [List.mem_singleton.1 h]
    rfl
  · rcases List.mem_append.1 h with first | others
    · exact isDigit_of_mem_decimal first
    · obtain ⟨i, -, hc⟩ := List.mem_flatMap.1 others
      exact isDigit_of_mem_padded hc

end Numeric

lemma numericText?_eq (bs : List UInt8) :
    numericText? bs =
      if Numeric.size bs ≤ bs.length then some (Numeric.sent bs).text else none := by
  rw [numericText?, Numeric.ofBytes?_eq]
  split_ifs <;> rfl

/-- Bytes behind the groups do not count, whatever they are. -/
lemma numericText?_congr (same : bs'.take (Numeric.size bs) = bs.take (Numeric.size bs)) :
    numericText? bs' = numericText? bs := by
  have size : Numeric.size bs' = Numeric.size bs := by
    rw [Numeric.size, Numeric.size, wordAt_congr same (by rw [Numeric.size]; omega)]
  rw [numericText?_eq, numericText?_eq, size, Numeric.sent_congr same]
  simp only [le_length_congr same]

end NestedTx.Wire
