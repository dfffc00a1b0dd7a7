import Mathlib.Algebra.Order.BigOperators.Group.List
import Mathlib.Data.List.GetD
import NestedTx.Proofs.Text.Utf8
import NestedTx.Proofs.Wire.Malformed

/-!
# Reading decimals on a machine

A machine reads a binary NUMERIC byte by byte and writes its text piece by piece. Its numbers have
bounds, it can reach behind the end of a list, it can cut a text inside a character, and its loops
can go on for ever. Here each step is guarded: it ends in a fault if one of these things happens. No
bytes lead to a fault, and what is read is what is read without guards.
-/

namespace NestedTx.Wire

open Text

/-- What must not happen on a machine. -/
inductive Fault where
  /-- An element is taken that is not there. -/
  | missing
  /-- A number does not fit into its type. -/
  | overflow
  /-- A text is cut inside a character. -/
  | brokenCharacter
  /-- A loop takes more rounds than it is given. -/
  | endless
  deriving Repr, DecidableEq

namespace Guarded

/-! ### Steps -/

/-- A natural number of so many bits. -/
def natural (bits n : Nat) : Except Fault Nat :=
  if n < 2 ^ bits then .ok n else .error .overflow

/-- An integer of 32 bits. -/
def int32 (i : Int) : Except Fault Int :=
  if -2 ^ 31 ≤ i ∧ i < 2 ^ 31 then .ok i else .error .overflow

/-- An element that has to be there. -/
def element {α : Type} (l : List α) (i : Nat) : Except Fault α :=
  match l[i]? with
  | some a => .ok a
  | none => .error .missing

/-- The elements from one index up to another, if they are all there. -/
def slice? {α : Type} (l : List α) (start stop : Nat) : Option (List α) :=
  if start ≤ stop ∧ stop ≤ l.length then some ((l.drop start).take (stop - start)) else none

/-- The first bytes of a text. They have to end between two characters. -/
def cut : Nat → List Char → Except Fault (List Char)
  | 0, _ => .ok []
  | _ + 1, [] => .ok []
  | n + 1, c :: cs =>
    if c.utf8Size ≤ n + 1 then do
      return c :: (← cut (n + 1 - c.utf8Size) cs)
    else .error .brokenCharacter

/-- No fault: what is read, if anything is. -/
def faultless {α : Type} (o : Option α) : OptionT (Except Fault) α :=
  .mk (.ok o)

section

/-! ### Reading -/

-- the width of an index, and how many rounds a loop may take
variable (bits rounds : Nat)

/-- The word at an index. -/
def word? (bs : List UInt8) (i : Nat) : OptionT (Except Fault) Nat := do
  let start ← natural bits (i * 2)
  let stop ← natural bits (i * 2 + 2)
  let pair ← faultless (slice? bs start stop)
  let high : UInt8 ← element pair 0
  let low : UInt8 ← element pair 1
  return 256 * high.toNat + low.toNat

/-- Header and groups. -/
def ofBytes? (bs : List UInt8) : OptionT (Except Fault) Numeric := do
  let count ← word? bits bs 0
  let weight ← word? bits bs 1
  let sign ← word? bits bs 2
  let scale ← word? bits bs 3
  let groups ← (List.range count).mapM fun i => do
    word? bits bs (← natural bits (4 + i))
  return ⟨signedWord weight, sign, scale, groups⟩

/-- Writes behind a text. Half of all addresses is what a text can take up. -/
def write (text more : List Char) : Except Fault (List Char) := do
  let _ ← natural (bits - 1) (String.utf8Len (text ++ more))
  return text ++ more

/-- Writes the digits in front of the point. -/
def writeWhole (n : Numeric) (text : List Char) : Except Fault (List Char) :=
  if n.weight < 0 then write bits text ['0']
  else
    (List.range (n.weight.toNat + 1)).foldlM (fun text (g : Nat) =>
      write bits text (if g = 0 then decimal (n.group g) else padded 4 (n.group g))) text

/-- Writes groups until there are as many bytes as the scale says. -/
def writeGroups (n : Numeric) : (rounds : Nat) → (g : Int) → List Char → Except Fault (List Char)
  | 0, _, text => if String.utf8Len text < n.scale then .error .endless else .ok text
  | rounds + 1, g, text =>
    if String.utf8Len text < n.scale then do
      let text ← write bits text (padded 4 (n.group g))
      let g ← int32 (g + 1)
      writeGroups n rounds g text
    else .ok text

/-- Writes the point and the digits behind it. -/
def writeFraction (n : Numeric) (text : List Char) : Except Fault (List Char) :=
  if n.scale = 0 then .ok text
  else do
    let _ ← natural (bits - 1) (n.scale + 4)
    let first ← int32 (n.weight + 1)
    let digits ← writeGroups bits n rounds first []
    let fraction ← cut n.scale digits
    let pointed ← write bits text ['.']
    write bits pointed fraction

/-- The decimal as text. -/
def text (n : Numeric) : Except Fault String :=
  if n.sign = 0xC000 then .ok "NaN"
  else if n.sign = 0xD000 then .ok "Infinity"
  else if n.sign = 0xF000 then .ok "-Infinity"
  else do
    let whole ← writeWhole bits n (if n.sign = 0x4000 then ['-'] else [])
    return String.ofList (← writeFraction bits rounds n whole)

/-- The text of a binary NUMERIC. -/
def numericText? (bs : List UInt8) : OptionT (Except Fault) String := do
  text bits rounds (← ofBytes? bits bs)

end

/-! ### No faults in reading -/

variable {bits rounds : Nat} {bs : List UInt8} {n : Numeric}

lemma natural_of_lt {k : Nat} (h : k < 2 ^ bits) : natural bits k = .ok k :=
  if_pos h

lemma int32_of_lt {i : Int} (low : -2 ^ 31 ≤ i) (high : i < 2 ^ 31) : int32 i = .ok i :=
  if_pos ⟨low, high⟩

/-- No address that is reached needs more than 32 bits. -/
lemma lt_two_pow {k : Nat} (h : 32 ≤ bits) (hk : k < 2 ^ 31) :
    k < 2 ^ (bits - 1) ∧ k < 2 ^ bits := by
  have half : 2 ^ 31 ≤ 2 ^ (bits - 1) := Nat.pow_le_pow_right (by decide) (by omega)
  have whole : 2 ^ (bits - 1) ≤ 2 ^ bits := Nat.pow_le_pow_right (by decide) (by omega)
  omega

lemma slice?_pair {i : Nat} (inside : i + 2 ≤ bs.length) :
    slice? bs i (i + 2) = some [bs.getD i 0, bs.getD (i + 1) 0] := by
  have pair : bs.drop i = bs.getD i 0 :: bs.getD (i + 1) 0 :: bs.drop (i + 2) := by
    rw [List.drop_eq_getElem_cons (by omega), List.drop_eq_getElem_cons (by omega),
      List.getD_eq_getElem _ _ (by omega), List.getD_eq_getElem _ _ (by omega)]
  rw [slice?, if_pos ⟨Nat.le_add_right i 2, inside⟩, Nat.add_sub_cancel_left, pair]
  rfl

/-- Both bytes of a word are there if the slice of them is. -/
lemma word?_eq_faultless {i : Nat} (h : i * 2 + 2 < 2 ^ bits) :
    word? bits bs i = faultless (Wire.word? bs i) := by
  rw [word?, natural_of_lt (by omega), natural_of_lt h, Wire.word?_eq]
  by_cases inside : i * 2 + 2 ≤ bs.length
  · rw [if_pos (by omega), wordAt, Nat.mul_comm 2 i]
    show faultless (slice? bs (i * 2) (i * 2 + 2)) >>= _ = _
    rw [slice?_pair inside]
    rfl
  · rw [if_neg (by omega)]
    have short : slice? bs (i * 2) (i * 2 + 2) = none := if_neg fun both => inside both.2
    show faultless (slice? bs (i * 2) (i * 2 + 2)) >>= _ = _
    rw [short]
    rfl

/-- Steps without faults one after the other are one without a fault. -/
lemma faultless_bind {α β : Type} {o : Option α} {f : α → OptionT (Except Fault) β}
    {g : α → Option β} (h : ∀ a, o = some a → f a = faultless (g a)) :
    (faultless o >>= f) = faultless (o >>= g) := by
  cases o with
  | none => rfl
  | some a => exact h a rfl

lemma mapM_faultless {α β : Type} {f : α → OptionT (Except Fault) β} {g : α → Option β}
    {l : List α} (h : ∀ a ∈ l, f a = faultless (g a)) : l.mapM f = faultless (l.mapM g) := by
  induction l with
  | nil => rfl
  | cons a l ih =>
    obtain ⟨first, others⟩ := List.forall_mem_cons.1 h
    rw [List.mapM_cons, List.mapM_cons, first, ih others]
    exact faultless_bind fun b _ => faultless_bind fun bs _ => rfl

lemma ofBytes?_eq_faultless (h : 32 ≤ bits) (bs : List UInt8) :
    ofBytes? bits bs = faultless (Numeric.ofBytes? bs) := by
  have word (i : Nat) (hi : i < 0x20000) : word? bits bs i = faultless (Wire.word? bs i) :=
    word?_eq_faultless (lt_two_pow h (by omega)).2
  have groups {count : Nat} (hc : count < 0x10000) : ((List.range count).mapM fun i => do
      word? bits bs (← natural bits (4 + i))) =
      faultless ((List.range count).mapM fun i => Wire.word? bs (4 + i)) := by
    apply mapM_faultless
    intro i hi
    have inside := List.mem_range.1 hi
    rw [natural_of_lt (lt_two_pow h (by omega)).2]
    exact word (4 + i) (by omega)
  rw [ofBytes?, Numeric.ofBytes?, word 0 (by omega), word 1 (by omega), word 2 (by omega),
    word 3 (by omega)]
  refine faultless_bind fun count hc => ?_
  -- no index of a group is larger than a word lets it be
  have small : count < 0x10000 := by
    rw [Wire.word?_eq] at hc
    split_ifs at hc
    rw [← Option.some.inj hc]
    exact wordAt_lt bs 0
  rw [groups small]
  refine faultless_bind fun weight _ => ?_
  refine faultless_bind fun sign _ => ?_
  refine faultless_bind fun scale _ => ?_
  exact faultless_bind fun groups _ => rfl

/-! ### No faults in writing -/

lemma write_eq (h : 32 ≤ bits) {text more : List Char} (single : ∀ c ∈ text ++ more, c.utf8Size = 1)
    (short : text.length + more.length < 2 ^ 31) : write bits text more = .ok (text ++ more) := by
  have fits : (text ++ more).length < 2 ^ (bits - 1) := by
    rw [List.length_append]
    exact (lt_two_pow h short).1
  rw [write, utf8Len_eq_length single, natural_of_lt fits]
  rfl

/-- Pieces of at most five digits are written one behind the other. -/
lemma foldlM_write (h : 32 ≤ bits) {α : Type} {piece : α → List Char} {l : List α}
    (digits : ∀ a ∈ l, ∀ c ∈ piece a, c.isDigit = true)
    (five : ∀ a ∈ l, (piece a).length ≤ 5) {text : List Char}
    (single : ∀ c ∈ text, c.utf8Size = 1) (short : text.length + 5 * l.length < 2 ^ 31) :
    l.foldlM (fun text a => write bits text (piece a)) text = .ok (text ++ l.flatMap piece) := by
  induction l generalizing text with
  | nil =>
    rw [List.flatMap_nil, List.append_nil]
    rfl
  | cons a l ih =>
    obtain ⟨digit, digits⟩ := List.forall_mem_cons.1 digits
    obtain ⟨most, five⟩ := List.forall_mem_cons.1 five
    rw [List.length_cons] at short
    have both : ∀ c ∈ text ++ piece a, c.utf8Size = 1 :=
      List.forall_mem_append.2 ⟨single, fun c hc => utf8Size_of_isDigit (digit c hc)⟩
    rw [List.foldlM_cons, write_eq h both (by omega)]
    show l.foldlM _ (text ++ piece a) = _
    rw [ih digits five both (by rw [List.length_append]; omega), List.flatMap_cons,
      List.append_assoc]

lemma length_group (fits : n.Fits) (g : Int) :
    (decimal (n.group g)).length ≤ 5 ∧ (padded 4 (n.group g)).length ≤ 5 := by
  have digits : (decimal (n.group g)).length ≤ 5 :=
    (Nat.length_toDigits_le_iff (by decide) (by decide)).2 ((fits.group_lt g).trans (by decide))
  rw [length_padded]
  omega

lemma length_wholeText_le (fits : n.Fits) : n.wholeText.length ≤ 5 * 0x8000 := by
  have weight := fits.weight
  rw [Numeric.wholeText]
  split_ifs with small
  · decide
  · have others : ∀ g ∈ (List.range n.weight.toNat).map
        fun i => (padded 4 (n.group (i + 1 : Nat))).length, g ≤ 5 := by
      intro g hg
      obtain ⟨i, -, rfl⟩ := List.mem_map.1 hg
      exact (length_group fits _).2
    have all := List.sum_le_card_nsmul _ 5 others
    have first := (length_group fits 0).1
    rw [List.length_map, List.length_range, Nat.nsmul_eq_mul] at all
    rw [List.length_append, List.length_flatMap]
    omega

lemma writeWhole_eq (h : 32 ≤ bits) (fits : n.Fits) {text : List Char}
    (single : ∀ c ∈ text, c.utf8Size = 1) (short : text.length ≤ 1) :
    writeWhole bits n text = .ok (text ++ n.wholeText) := by
  rw [writeWhole, Numeric.wholeText]
  split_ifs with small
  · apply write_eq h
    · exact List.forall_mem_append.2 ⟨single, List.forall_mem_singleton.2 rfl⟩
    · rw [List.length_singleton]
      omega
  · have weight := fits.weight
    rw [foldlM_write h ?digits ?five single (by rw [List.length_range]; omega)]
    · rw [List.range_succ_eq_map, List.flatMap_cons, List.flatMap_map]
      rfl
    case digits =>
      intro g _ c hc
      split_ifs at hc
      · exact isDigit_of_mem_decimal hc
      · exact isDigit_of_mem_padded hc
    case five =>
      intro g _
      split_ifs
      · exact (length_group fits g).1
      · exact (length_group fits g).2

lemma utf8Size_of_mem_fraction {count : Nat} {c : Char} (h : c ∈ n.fraction count) :
    c.utf8Size = 1 :=
  utf8Size_of_isDigit (Numeric.isDigit_of_mem_fraction h)

lemma utf8Len_fraction (n : Numeric) (count : Nat) :
    String.utf8Len (n.fraction count) = (n.fraction count).length :=
  utf8Len_eq_length fun _ => utf8Size_of_mem_fraction

/-- As long as digits are missing, the next group is written. -/
lemma write_group (h : 32 ≤ bits) (fits : n.Fits) {count : Nat}
    (missing : (n.fraction count).length < n.scale) :
    write bits (n.fraction count) (padded 4 (n.group (n.weight + 1 + count))) =
        .ok (n.fraction (count + 1)) ∧
      int32 (n.weight + 1 + count + 1) = .ok (n.weight + 1 + (count + 1 : Nat)) := by
  have scale := fits.scale
  have weight := fits.weight
  have groups := n.le_length_fraction count
  have five := (length_group fits (n.weight + 1 + count)).2
  constructor
  · rw [Numeric.fraction_succ]
    apply write_eq h
    · rw [← Numeric.fraction_succ]
      exact fun c => utf8Size_of_mem_fraction
    · omega
  · rw [int32_of_lt (by omega) (by omega)]
    congr 1
    omega

/-- The groups are written until there are digits enough: each round gives four, so a quarter of
those that are missing is rounds enough. -/
lemma writeGroups_eq (h : 32 ≤ bits) (fits : n.Fits) {count : Nat}
    (enough : n.scale ≤ (n.fraction count).length + 4 * rounds) :
    ∃ last, n.scale ≤ (n.fraction last).length ∧
      writeGroups bits n rounds (n.weight + 1 + count) (n.fraction count) =
        .ok (n.fraction last) := by
  -- in front of every round there are the digits of the groups so far
  induction rounds generalizing count with
  | zero =>
    refine ⟨count, enough, ?_⟩
    rw [writeGroups, utf8Len_fraction, if_neg (by omega)]
  | succ rounds ih =>
    rw [writeGroups, utf8Len_fraction]
    -- each round adds four digits as long as some are missing, so `rounds` of them suffice
    by_cases missing : (n.fraction count).length < n.scale
    · obtain ⟨written, next⟩ := write_group h fits missing
      have more : (n.fraction count).length + 4 ≤ (n.fraction (count + 1)).length := by
        rw [Numeric.fraction_succ, List.length_append, length_padded]
        omega
      rw [if_pos missing, written]
      show ∃ last, _ ∧ (int32 (n.weight + 1 + count + 1) >>= fun g =>
        writeGroups bits n rounds g (n.fraction (count + 1))) = _
      rw [next]
      exact ih (by omega)
    · refine ⟨count, Nat.le_of_not_lt missing, ?_⟩
      rw [if_neg missing]

/-- A text of characters of one byte can be cut anywhere. -/
lemma cut_eq {cs : List Char} (single : ∀ c ∈ cs, c.utf8Size = 1) (size : Nat) :
    cut size cs = .ok (cs.take size) := by
  induction cs generalizing size with
  | nil => cases size <;> rfl
  | cons c cs ih =>
    obtain ⟨first, others⟩ := List.forall_mem_cons.1 single
    cases size with
    | zero => rfl
    | succ size =>
      rw [cut, first, if_pos (by omega), Nat.add_sub_cancel, ih others]
      rfl

lemma writeFraction_eq (h : 32 ≤ bits) (fits : n.Fits) (enough : (n.scale + 3) / 4 ≤ rounds)
    {text : List Char} (single : ∀ c ∈ text, c.utf8Size = 1) (short : text.length < 2 ^ 30) :
    writeFraction bits rounds n text =
      .ok (text ++ if n.scale = 0 then [] else '.' :: n.fractionText) := by
  rw [writeFraction]
  split_ifs with none
  · rw [List.append_nil]
  · have scale := fits.scale
    have weight := fits.weight
    have length := n.length_fractionText
    -- a group has four digits, and the rounds are counted for that
    have all : n.scale ≤ (n.fraction 0).length + 4 * rounds := by omega
    obtain ⟨last, digits, written⟩ := writeGroups_eq h fits all
    have start : n.weight + 1 + (0 : Nat) = n.weight + 1 := Int.add_zero _
    have pointed : ∀ c ∈ text ++ ['.'], c.utf8Size = 1 :=
      List.forall_mem_append.2 ⟨single, List.forall_mem_singleton.2 rfl⟩
    have ended : ∀ c ∈ text ++ ['.'] ++ n.fractionText, c.utf8Size = 1 := by
      rw [← Numeric.take_fraction digits]
      exact List.forall_mem_append.2
        ⟨pointed, fun c hc => utf8Size_of_mem_fraction (List.mem_of_mem_take hc)⟩
    rw [start] at written
    rw [natural_of_lt (lt_two_pow h (by omega)).1, int32_of_lt (by omega) (by omega)]
    show (writeGroups bits n rounds (n.weight + 1) (n.fraction 0) >>= _) = _
    rw [written]
    show (cut n.scale (n.fraction last) >>= _) = _
    rw [cut_eq fun c => utf8Size_of_mem_fraction, Numeric.take_fraction digits]
    show (write bits text ['.'] >>= fun pointed => write bits pointed n.fractionText) = _
    rw [write_eq h pointed (by rw [List.length_singleton]; omega)]
    show write bits (text ++ ['.']) n.fractionText = _
    rw [write_eq h ended (by rw [List.length_append, List.length_singleton]; omega),
      List.append_assoc]
    rfl

/-- The text is written to its end without a fault. -/
lemma text_eq (h : 32 ≤ bits) (fits : n.Fits) (enough : (n.scale + 3) / 4 ≤ rounds) :
    text bits rounds n = .ok n.text := by
  by_cases special : n.sign ∈ [0xC000, 0xD000, 0xF000]
  · simp only [List.mem_cons, List.not_mem_nil, or_false] at special
    rcases special with sign | sign | sign <;> rw [text, Numeric.text, sign] <;> rfl
  · have minus : ∀ c ∈ if n.sign = 0x4000 then ['-'] else [], c.utf8Size = 1 := by
      split_ifs
      · exact List.forall_mem_singleton.2 rfl
      · exact List.forall_mem_nil _
    have short : (if n.sign = 0x4000 then ['-'] else []).length ≤ 1 := by
      split_ifs <;> decide
    have whole : ∀ c ∈ (if n.sign = 0x4000 then ['-'] else []) ++ n.wholeText, c.utf8Size = 1 :=
      List.forall_mem_append.2
        ⟨minus, fun c hc => utf8Size_of_isDigit (Numeric.isDigit_of_mem_wholeText hc)⟩
    have length := length_wholeText_le fits
    rw [Numeric.text_of_number special]
    simp only [List.mem_cons, List.not_mem_nil, or_false, not_or] at special
    obtain ⟨nan, infinity, negative⟩ := special
    rw [text, if_neg nan, if_neg infinity, if_neg negative, writeWhole_eq h fits minus short]
    show (writeFraction bits rounds n _ >>= _) = _
    rw [writeFraction_eq h fits enough whole (by rw [List.length_append]; omega)]
    rfl

/-- Reading ends without a fault, and with what is read without guards. -/
lemma numericText?_run (h : 32 ≤ bits) (enough : (wordAt bs 3 + 3) / 4 ≤ rounds) :
    (numericText? bits rounds bs).run = .ok (Wire.numericText? bs) := by
  rw [numericText?, ofBytes?_eq_faultless h, Numeric.ofBytes?_eq, Wire.numericText?_eq]
  split_ifs with complete
  · show (text bits rounds (Numeric.sent bs) >>= _) = _
    rw [text_eq h (Numeric.fits_sent bs) enough]
    rfl
  · rfl

end Guarded

/-- Any bytes at all can be read as a NUMERIC. On a machine with indices of 32 bits or more no
element is taken that is not there, no number gets too large for its type and no text is cut inside
a character, and the groups behind the point are written in at most a quarter as many rounds as the
scale says, rounded up. Nothing is read only if the bytes end before the header or before as many
groups as it says, and what stands behind these does not count. Three signs have their own texts,
whatever the rest of the header says. With every other sign there are digits in front of the point
and behind it exactly as many as the scale says, and no point if that is none. -/
theorem numericText?_safe (bs : List UInt8) :
    (∀ {bits rounds : Nat}, 32 ≤ bits → (wordAt bs 3 + 3) / 4 ≤ rounds →
      (Guarded.numericText? bits rounds bs).run = .ok (numericText? bs)) ∧
    (numericText? bs = none ↔ bs.length < Numeric.size bs) ∧
    (∀ bs' : List UInt8, bs'.take (Numeric.size bs) = bs.take (Numeric.size bs) →
      numericText? bs' = numericText? bs) ∧
    (Numeric.size bs ≤ bs.length →
      (wordAt bs 2 = 0xC000 → numericText? bs = some "NaN") ∧
      (wordAt bs 2 = 0xD000 → numericText? bs = some "Infinity") ∧
      (wordAt bs 2 = 0xF000 → numericText? bs = some "-Infinity") ∧
      (wordAt bs 2 ∉ [0xC000, 0xD000, 0xF000] → ∃ whole fraction,
        numericText? bs =
          some (String.ofList ((if wordAt bs 2 = 0x4000 then ['-'] else []) ++ whole ++
            (if wordAt bs 3 = 0 then [] else '.' :: fraction))) ∧
        whole ≠ [] ∧ (∀ c ∈ whole ++ fraction, c.isDigit = true) ∧
        fraction.length = wordAt bs 3)) := by
  refine ⟨Guarded.numericText?_run, ?short, fun bs' => numericText?_congr, ?complete⟩
  case short =>
    rw [numericText?_eq]
    split_ifs with complete <;> simpa using complete
  case complete =>
    intro complete
    have read : numericText? bs = some (Numeric.sent bs).text := by
      rw [numericText?_eq, if_pos complete]
    have sign : (Numeric.sent bs).sign = wordAt bs 2 := rfl
    refine ⟨fun nan => ?_, fun infinity => ?_, fun negative => ?_, fun number => ?_⟩
    · rw [read, Numeric.text, sign, nan]
      rfl
    · rw [read, Numeric.text, sign, infinity]
      rfl
    · rw [read, Numeric.text, sign, negative]
      rfl
    · refine ⟨(Numeric.sent bs).wholeText, (Numeric.sent bs).fractionText, ?_,
        Numeric.wholeText_ne_nil _, ?_, Numeric.length_fractionText _⟩
      · rw [read, Numeric.text_of_number number]
        rfl
      · exact List.forall_mem_append.2 ⟨fun c => Numeric.isDigit_of_mem_wholeText,
          fun c hc => Numeric.isDigit_of_mem_fraction (List.mem_of_mem_take hc)⟩

/-- A negative number whose only group has five digits, the whole of it, with a byte too many and
with one too few; and a header with a sign that is no number's. -/
theorem numericText?_safe_malformed :
    (Guarded.numericText? 64 2 [0, 1, 0xFF, 0xFF, 0x40, 0, 0, 6, 0xFF, 0xFF, 7]).run =
        .ok (some "-0.655350") ∧
      numericText? [0, 1, 0xFF, 0xFF, 0x40, 0, 0, 6, 0xFF, 0xFF] = some "-0.655350" ∧
      numericText? [0, 1, 0xFF, 0xFF, 0x40, 0, 0, 6, 0xFF] = none ∧
      (∃ whole fraction,
        numericText? [0, 1, 0xFF, 0xFF, 0x40, 0, 0, 6, 0xFF, 0xFF, 7] =
          some (String.ofList (['-'] ++ whole ++ '.' :: fraction)) ∧ fraction.length = 6) ∧
      numericText? [0, 0, 0x7F, 0xFF, 0xC0, 0, 0xFF, 0xFF] = some "NaN" := by
  have text : numericText? [0, 1, 0xFF, 0xFF, 0x40, 0, 0, 6, 0xFF, 0xFF, 7] = some "-0.655350" :=
    rfl
  obtain ⟨run, -, behind, complete⟩ :=
    numericText?_safe [0, 1, 0xFF, 0xFF, 0x40, 0, 0, 6, 0xFF, 0xFF, 7]
  obtain ⟨-, short, -, -⟩ := numericText?_safe [0, 1, 0xFF, 0xFF, 0x40, 0, 0, 6, 0xFF]
  obtain ⟨-, -, -, special⟩ := numericText?_safe [0, 0, 0x7F, 0xFF, 0xC0, 0, 0xFF, 0xFF]
  obtain ⟨-, -, -, number⟩ := complete (by decide)
  obtain ⟨whole, fraction, written, -, -, length⟩ := number (by decide)
  refine ⟨?_, ?_, short.2 (by decide), ⟨whole, fraction, written, length⟩,
    (special (by decide)).1 (by decide)⟩
  · rw [run (by decide) (by decide), text]
  · rw [behind _ (by decide), text]

end NestedTx.Wire
