import NestedTx.Proofs.Text.Decimal
import NestedTx.Proofs.Text.Utf8
import NestedTx.Savepoint

/-!
# Names of savepoints, told apart and let through

The name of a savepoint is split again into its provider and its level at the digits that it ends
in, whatever the id of the provider looks like. Behind an id that is an identifier, the name is one
as well, and such names take one byte for each character.
-/

namespace NestedTx.Savepoint

open Text

variable {id id' : String} {m n : Nat}

/-! ### Names tell levels and providers apart -/

lemma name_injective (id : String) : Function.Injective (name id) := by
  intro m n h
  have hd : decimal m = decimal n := by
    simpa [name, String.append_assoc, String.ofList_inj] using h
  rw [← Nat.ofDigitChars_ten_toDigits (n := m), ← Nat.ofDigitChars_ten_toDigits (n := n)]
  exact congrArg (Nat.ofDigitChars 10 · 0) hd

/-- The savepoints of different providers have different names, even if the id of one goes on like
the name of a savepoint of another. -/
lemma id_eq_of_name_eq (h : name id m = name id' n) : id = id' := by
  have digits (k : Nat) : ∀ c ∈ (decimal k).reverse, c.isDigit = true := by
    intro c hc
    exact isDigit_of_mem_decimal (List.mem_reverse.1 hc)
  have stem (id : String) (k : Nat) :
      (name id k).toList.reverse.dropWhile (·.isDigit)
        = "_sp_".toList.reverse ++ id.toList.reverse := by
    simp only [name, String.toList_append, String.toList_ofList, List.reverse_append]
    rw [List.dropWhile_append_of_pos (digits k)]
    rfl
  have stems := stem id m
  rw [h, stem id' n] at stems
  exact (String.toList_injective (List.reverse_injective (List.append_cancel_left stems))).symm

lemma name_eq_iff : name id m = name id' n ↔ id = id' ∧ m = n := by
  constructor
  · intro h
    obtain rfl := id_eq_of_name_eq h
    exact ⟨rfl, name_injective id h⟩
  · rintro ⟨rfl, rfl⟩
    rfl

/-! ### Names are let through -/

lemma validate_of_isValid {name : String} (h : isValid name.toList = true) :
    validate name = .ok () := by
  rw [validate, if_pos h]

lemma inName_of_startsName {c : Char} (h : startsName c = true) : inName c = true := by
  rw [startsName, Bool.or_eq_true] at h
  rw [inName, Char.isAlphanum, Bool.or_eq_true, Bool.or_eq_true]
  exact h.imp_left Or.inl

lemma inName_of_isDigit {c : Char} (h : c.isDigit = true) : inName c = true := by
  simp [inName, Char.isAlphanum, h]

lemma inName_of_mem {cs : List Char} (h : isValid cs = true) {c : Char} (hc : c ∈ cs) :
    inName c = true := by
  cases cs with
  | nil => cases hc
  | cons d ds =>
    rw [isValid, Bool.and_eq_true] at h
    obtain rfl | inside := List.mem_cons.1 hc
    · exact inName_of_startsName h.1
    · exact List.all_eq_true.1 h.2 c inside

lemma toList_name (id : String) (level : Nat) :
    (name id level).toList = id.toList ++ "_sp_".toList ++ decimal level := by
  simp only [name, String.toList_append, String.toList_ofList]

/-- A name is an identifier if the id that it begins with is one. -/
lemma isValid_name (h : isValid id.toList = true) (level : Nat) :
    isValid (name id level).toList = true := by
  rw [toList_name]
  cases hid : id.toList with
  | nil =>
    rw [hid] at h
    cases h
  | cons c cs =>
    rw [hid, isValid, Bool.and_eq_true] at h
    obtain ⟨first, others⟩ := h
    have digits : (decimal level).all inName = true :=
      List.all_eq_true.2 fun c hc => inName_of_isDigit (isDigit_of_mem_decimal hc)
    rw [List.cons_append, List.cons_append, isValid, first, List.all_append, List.all_append,
      others, digits]
    rfl

/-! ### The length of names -/

/-- A character of an identifier takes one byte. -/
lemma utf8Size_of_inName {c : Char} (h : inName c = true) : c.utf8Size = 1 := by
  rw [Char.utf8Size_eq_one_iff]
  rw [inName, Char.isAlphanum, Bool.or_eq_true, Bool.or_eq_true, beq_iff_eq] at h
  obtain (alpha | digit) | rfl := h
  · obtain upper | lower := Bool.or_eq_true_iff.1 alpha
    · exact UInt32.le_trans (of_decide_eq_true upper).2 (by decide)
    · exact UInt32.le_trans (of_decide_eq_true (Bool.and_eq_true_iff.1 lower).2) (by decide)
  · exact Char.utf8Size_eq_one_iff.1 (utf8Size_of_isDigit digit)
  · decide

/-- An identifier has as many bytes as characters. -/
lemma utf8ByteSize_of_isValid {name : String} (h : isValid name.toList = true) :
    name.utf8ByteSize = name.toList.length := by
  have plain : ∀ c ∈ name.toList, c.utf8Size = 1 :=
    fun c hc => utf8Size_of_inName (inName_of_mem h hc)
  rw [← utf8Len_eq_length plain, ← String.utf8ByteSize_ofList, String.ofList_toList]

/-- A level that fits into a word takes at most twenty digits. -/
lemma length_name_le {level : Nat} (h : level < 2 ^ 64) :
    (name id level).toList.length ≤ id.toList.length + 24 := by
  have digits : (decimal level).length ≤ 20 :=
    (Nat.length_toDigits_le_iff (by decide) (by decide)).2 (h.trans (by decide))
  rw [toList_name, List.length_append, List.length_append]
  have word : "_sp_".toList.length = 4 := rfl
  omega

end NestedTx.Savepoint
