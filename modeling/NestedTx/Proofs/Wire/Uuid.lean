import Mathlib.Tactic.Lemma
import NestedTx.Wire.Uuid

/-!
# Bytes in hexadecimal digits, written and read

Bytes are read back from their hexadecimal digits, and the bytes of a UUID from its hyphenated
form.
-/

namespace NestedTx.Wire

open Text

/-! ### Pairs of digits -/

lemma hexDigit?_hexLower {n : Nat} (h : n < 16) : hexDigit? (hexLower n) = some n := by
  decide +revert

/-- No hexadecimal digit is a hyphen. -/
lemma hexLower_ne_hyphen {n : Nat} (h : n < 16) : hexLower n ≠ '-' := by
  decide +revert

/-- The upper and the lower half of a byte. -/
lemma halves_lt (b : UInt8) : b.toNat / 16 < 16 ∧ b.toNat % 16 < 16 := by
  have := b.toNat_lt
  omega

/-- Bytes are read back from their digits. -/
lemma bytesOfHex?_hexOfBytes (bs : List UInt8) : bytesOfHex? (hexOfBytes bs) = some bs := by
  induction bs with
  | nil => rfl
  | cons b bs ih =>
    obtain ⟨high, low⟩ := halves_lt b
    have whole : UInt8.ofNat (16 * (b.toNat / 16) + b.toNat % 16) = b := by
      rw [Nat.div_add_mod, UInt8.ofNat_toNat]
    show bytesOfHex? (hexLower _ :: hexLower _ :: hexOfBytes bs) = _
    simp only [bytesOfHex?, hexDigit?_hexLower high, hexDigit?_hexLower low, ih,
      Option.bind_eq_bind, Option.bind_some, whole, Option.pure_def]

lemma length_hexOfBytes (bs : List UInt8) : (hexOfBytes bs).length = 2 * bs.length := by
  induction bs with
  | nil => rfl
  | cons b bs ih =>
    show (hexOfBytes bs).length + 1 + 1 = 2 * (bs.length + 1)
    omega

lemma hyphen_not_mem_hexOfBytes (bs : List UInt8) : '-' ∉ hexOfBytes bs := by
  intro h
  obtain ⟨b, -, hc⟩ := List.mem_flatMap.1 h
  obtain ⟨high, low⟩ := halves_lt b
  rcases List.mem_cons.1 hc with hc | hc
  · exact hexLower_ne_hyphen high hc.symm
  · exact hexLower_ne_hyphen low (List.mem_singleton.1 hc).symm

/-! ### Parts between hyphens -/

variable {α : Type}

/-- The parts of a list together are the list. -/
lemma flatten_cutParts {ns : List Nat} {l : List α} (h : l.length = ns.foldr (· + ·) 0) :
    (cutParts ns l).flatten = l := by
  induction ns generalizing l with
  | nil => exact (List.length_eq_zero_iff.1 h).symm
  | cons n ns ih =>
    rw [List.foldr_cons] at h
    rw [cutParts, List.flatten_cons, ih, List.take_append_drop]
    rw [List.length_drop]
    omega

lemma map_length_cutParts {ns : List Nat} {l : List α} (h : l.length = ns.foldr (· + ·) 0) :
    (cutParts ns l).map List.length = ns := by
  induction ns generalizing l with
  | nil => rfl
  | cons n ns ih =>
    rw [List.foldr_cons] at h
    rw [cutParts, List.map_cons, List.length_take, ih, Nat.min_eq_left]
    · omega
    · rw [List.length_drop]
      omega

lemma mem_of_mem_cutParts {ns : List Nat} {l part : List α} {x : α} (hp : part ∈ cutParts ns l)
    (hx : x ∈ part) : x ∈ l := by
  induction ns generalizing l with
  | nil => cases hp
  | cons n ns ih =>
    rcases List.mem_cons.1 hp with rfl | hp
    · exact List.mem_of_mem_take hx
    · exact List.mem_of_mem_drop (ih hp)

/-- The bytes of a UUID are read back from its hyphenated form. -/
lemma uuid?_uuidText {bs : List UInt8} (h : bs.length = 16) : uuid? (uuidText bs) = some bs := by
  have digits : (hexOfBytes bs).length = uuidParts.foldr (· + ·) 0 := by
    rw [length_hexOfBytes, h]
    rfl
  have parts : (uuidText bs).splitOn '-' = cutParts uuidParts (hexOfBytes bs) := by
    apply List.splitOn_intercalate
    · intro part hp hx
      exact hyphen_not_mem_hexOfBytes bs (mem_of_mem_cutParts hp hx)
    · simp [uuidParts, cutParts]
  have length : (uuidText bs).length = 36 := by
    simp [uuidText, uuidParts, cutParts, List.intercalate, List.intersperse, length_hexOfBytes, h]
  rw [uuid?, length, if_neg (by decide), if_pos rfl, hyphenated?, parts, map_length_cutParts digits,
    if_pos rfl, flatten_cutParts digits, bytesOfHex?_hexOfBytes]

end NestedTx.Wire
