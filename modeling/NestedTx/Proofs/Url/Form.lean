import Mathlib.Data.List.Basic
import Mathlib.Tactic.Common
import NestedTx.Proofs.Text.Utf8
import NestedTx.Proofs.Url.Password
import NestedTx.Url.Form

/-!
# Reading form-encoded queries back

Names and values may be any texts. They are written with few characters, none of which parts a name
from its value or a pair from the next, so that every pair is read back as it was.
-/

namespace NestedTx.Url

open Text

/-! ### Bytes

There are few bytes, so they are gone through one by one. A plus sign becomes a blank before the
digits are read, and none of the digits is a plus sign. -/

/-- How a byte is written in a name or a value. -/
def formByte (b : UInt8) : List Char :=
  if isFormSafe b then [Char.ofUInt8 b] else if b = 0x20 then ['+'] else encodeByte b

/-- A plus sign is read as a blank. -/
def blankForPlus (c : Char) : Char :=
  if c = '+' then ' ' else c

lemma formEncode_eq (cs : List Char) : formEncode cs = (utf8 cs).flatMap formByte :=
  rfl

lemma formDecode_eq (cs : List Char) :
    formDecode cs = utf8DecodeLossy (percentDecode (utf8 (cs.map blankForPlus))) :=
  rfl

/-- What holds of the bytes up to 255 holds of all. -/
lemma forall_byte {p : UInt8 → Prop} (h : ∀ n < 256, p (UInt8.ofNat n)) (b : UInt8) : p b := by
  have small := h b.toNat b.toNat_lt
  rwa [UInt8.ofNat_toNat] at small

/-- No character that a byte is written with is a mark in a query, or is encoded in one. -/
lemma formByte_plain (b : UInt8) :
    ∀ c ∈ formByte b, inSpecialQuerySet c = false ∧ c ≠ '&' ∧ c ≠ '=' := by
  -- over the characters of the list: there are too many characters to go through
  rw [← List.forall_iff_forall_mem]
  revert b
  apply forall_byte
  decide +kernel

lemma utf8_encodeByte (b : UInt8) :
    utf8 ((encodeByte b).map blankForPlus) =
      [0x25, (hexUpper (b.toNat / 16)).toUInt8, (hexUpper (b.toNat % 16)).toUInt8] := by
  revert b
  apply forall_byte
  decide +kernel

lemma hexDigit?_hexUpper {n : Nat} (h : n < 16) :
    hexDigit? (Char.ofUInt8 (hexUpper n).toUInt8) = some n := by
  decide +revert

lemma utf8_of_isFormSafe (b : UInt8) :
    isFormSafe b = true → utf8 [blankForPlus (Char.ofUInt8 b)] = [b] ∧ b ≠ 0x25 := by
  revert b
  apply forall_byte
  decide +kernel

lemma percentDecode_cons {b : UInt8} (h : b ≠ 0x25) (rest : List UInt8) :
    percentDecode (b :: rest) = b :: percentDecode rest := by
  rw [percentDecode]
  intro high low rest' hb
  exact absurd hb h

/-- Two digits are read as the byte that they were written for. -/
lemma percentDecode_encodeByte (b : UInt8) (rest : List UInt8) :
    percentDecode (utf8 ((encodeByte b).map blankForPlus) ++ rest) = b :: percentDecode rest := by
  have small : b.toNat < 256 := b.toNat_lt
  have high := hexDigit?_hexUpper (show b.toNat / 16 < 16 by omega)
  have low := hexDigit?_hexUpper (show b.toNat % 16 < 16 by omega)
  have whole : 16 * (b.toNat / 16) + b.toNat % 16 = b.toNat := Nat.div_add_mod ..
  rw [utf8_encodeByte, List.cons_append, List.cons_append, List.cons_append, List.nil_append,
    percentDecode, high, low]
  simp only [whole, UInt8.ofNat_toNat]

/-- A byte is read back, whatever follows it. -/
lemma percentDecode_formByte (b : UInt8) (rest : List UInt8) :
    percentDecode (utf8 ((formByte b).map blankForPlus) ++ rest) = b :: percentDecode rest := by
  rw [formByte]
  split_ifs with safe blank
  · obtain ⟨own, plain⟩ := utf8_of_isFormSafe b safe
    rw [List.map_singleton, own]
    exact percentDecode_cons plain rest
  · subst blank
    exact percentDecode_cons (by decide) rest
  · exact percentDecode_encodeByte b rest

lemma percentDecode_formBytes (bs : List UInt8) :
    percentDecode (utf8 ((bs.flatMap formByte).map blankForPlus)) = bs := by
  induction bs with
  | nil => rfl
  | cons b bs ih =>
    have cut : utf8 (((b :: bs).flatMap formByte).map blankForPlus) =
        utf8 ((formByte b).map blankForPlus) ++ utf8 ((bs.flatMap formByte).map blankForPlus) := by
      simp [utf8]
    rw [cut, percentDecode_formByte, ih]

/-! ### Names and values -/

/-- Every text is read back as it was written. -/
lemma formDecode_formEncode (cs : List Char) : formDecode (formEncode cs) = cs := by
  rw [formDecode_eq, formEncode_eq, percentDecode_formBytes, utf8DecodeLossy_utf8]

lemma formEncode_plain {cs : List Char} {c : Char} (h : c ∈ formEncode cs) :
    inSpecialQuerySet c = false ∧ c ≠ '&' ∧ c ≠ '=' := by
  obtain ⟨b, -, hc⟩ := List.mem_flatMap.1 h
  exact formByte_plain b c hc

/-! ### Pairs -/

lemma decodePair_encodePair (p : Pair) : decodePair (encodePair p) = p := by
  have name : '=' ∉ formEncode p.1 := fun h => (formEncode_plain h).2.2 rfl
  rw [encodePair, decodePair, splitFirst?_append name, splitFirst?_cons_self]
  simp [formDecode_formEncode]

lemma ampersand_not_mem_encodePair (p : Pair) : '&' ∉ encodePair p := by
  rw [encodePair, List.mem_append, List.mem_cons]
  rintro (name | sign | value)
  · exact (formEncode_plain name).2.1 rfl
  · cases sign
  · exact (formEncode_plain value).2.1 rfl

lemma encodePair_ne_nil (p : Pair) : encodePair p ≠ [] := by
  simp [encodePair]

/-- The pairs of a query are read back as they were written, in their order. -/
theorem queryPairs_queryOfPairs (pairs : List Pair) : queryPairs (queryOfPairs pairs) = pairs := by
  cases pairs with
  | nil => rfl
  | cons p rest =>
    have apart : ∀ piece ∈ (p :: rest).map encodePair, '&' ∉ piece := by
      rw [List.forall_mem_map]
      intro q _
      exact ampersand_not_mem_encodePair q
    have full : ∀ piece ∈ (p :: rest).map encodePair, (piece != []) = true := by
      rw [List.forall_mem_map]
      intro q _
      exact bne_iff_ne.2 (encodePair_ne_nil q)
    rw [queryPairs, queryOfPairs, List.splitOn_intercalate '&' apart (by simp),
      List.filter_eq_self.2 full, List.map_map]
    simp [Function.comp_def, decodePair_encodePair]

/-- No character of a written query is encoded in a URL. -/
lemma queryOfPairs_plain (pairs : List Pair) :
    ∀ c ∈ queryOfPairs pairs, inSpecialQuerySet c = false := by
  apply forall_mem_intercalate (p := fun c => inSpecialQuerySet c = false)
    (List.forall_mem_singleton.2 (by decide))
  rw [List.forall_mem_map]
  intro p _
  rw [encodePair, List.forall_mem_append, List.forall_mem_cons]
  exact ⟨fun c hc => (formEncode_plain hc).1, by decide, fun c hc => (formEncode_plain hc).1⟩

end NestedTx.Url
