import Mathlib.Computability.RegularExpressions
import NestedTx.Proofs.Savepoint

/-!
# The grammar of savepoint names

A name is a letter or an underscore and any letters, digits and underscores behind it. All of them
are of ASCII: there are letters and digits in other scripts, and a name has none of these. What is
let through is exactly what this regular expression matches.
-/

namespace NestedTx.Savepoint

open Text

/-- Matches any one of the characters. -/
def oneOf : List Char → RegularExpression Char
  | [] => 0
  | c :: cs => .char c + oneOf cs

def letters : List Char :=
  "ABCDEFGHIJKLMNOPQRSTUVWXYZabcdefghijklmnopqrstuvwxyz".toList

def digits : List Char :=
  "0123456789".toList

/-- The grammar of names: `[A-Za-z_][A-Za-z0-9_]*`. -/
def identifier : RegularExpression Char :=
  oneOf (letters ++ ['_']) * (oneOf (letters ++ digits ++ ['_'])).star

variable {c : Char} {cs w : List Char}

lemma mem_oneOf : w ∈ (oneOf cs).matches' ↔ ∃ c ∈ cs, w = [c] := by
  induction cs with
  | nil => simp [oneOf, Language.notMem_zero]
  | cons c cs ih =>
    simp only [oneOf, RegularExpression.matches'_add, RegularExpression.matches'_char,
      Language.mem_add, ih, List.mem_cons, exists_eq_or_imp]
    rfl

lemma mem_star_oneOf : w ∈ (oneOf cs).star.matches' ↔ ∀ c ∈ w, c ∈ cs := by
  rw [RegularExpression.matches'_star, Language.mem_kstar]
  constructor
  · rintro ⟨pieces, rfl, single⟩ c hc
    obtain ⟨piece, member, hc⟩ := List.mem_flatten.1 hc
    obtain ⟨d, hd, rfl⟩ := mem_oneOf.1 (single piece member)
    rwa [List.mem_singleton.1 hc]
  · intro h
    refine ⟨w.map fun c => [c], ?_, ?_⟩
    · exact (List.flatMap_singleton' w).symm
    · intro piece member
      obtain ⟨c, hc, rfl⟩ := List.mem_map.1 member
      exact mem_oneOf.2 ⟨c, h c hc, rfl⟩

lemma mem_identifier :
    w ∈ identifier.matches' ↔
      ∃ c cs, w = c :: cs ∧ c ∈ letters ++ ['_'] ∧ ∀ d ∈ cs, d ∈ letters ++ digits ++ ['_'] := by
  rw [identifier, RegularExpression.matches'_mul, Language.mem_mul]
  constructor
  · rintro ⟨first, hf, rest, hr, rfl⟩
    obtain ⟨c, hc, rfl⟩ := mem_oneOf.1 hf
    exact ⟨c, rest, rfl, hc, mem_star_oneOf.1 hr⟩
  · rintro ⟨c, rest, rfl, hc, hr⟩
    exact ⟨[c], mem_oneOf.2 ⟨c, hc, rfl⟩, rest, mem_star_oneOf.2 hr, rfl⟩

/-! ### What is let through -/

lemma ascii_of_inName (h : inName c = true) : c.toNat < 0x80 :=
  Nat.lt_succ_of_le (Char.utf8Size_eq_one_iff.1 (utf8Size_of_inName h))

lemma inName_iff : inName c = true ↔ c ∈ letters ++ digits ++ ['_'] := by
  constructor
  · intro h
    have checked : inName c = true → c ∈ letters ++ digits ++ ['_'] := by
      apply forall_ascii _ (ascii_of_inName h)
      decide +kernel
    exact checked h
  · have checked : (letters ++ digits ++ ['_']).all inName = true := by decide
    exact List.all_eq_true.1 checked c

lemma startsName_iff : startsName c = true ↔ c ∈ letters ++ ['_'] := by
  constructor
  · intro h
    have checked : startsName c = true → c ∈ letters ++ ['_'] := by
      apply forall_ascii _ (ascii_of_inName (inName_of_startsName h))
      decide +kernel
    exact checked h
  · have checked : (letters ++ ['_']).all startsName = true := by decide
    exact List.all_eq_true.1 checked c

lemma isValid_iff : isValid w = true ↔ w ∈ identifier.matches' := by
  rw [mem_identifier]
  cases w with
  | nil => simp [isValid]
  | cons c cs => simp [isValid, startsName_iff, inName_iff]

/-- A text is let through if it is an identifier, and refused as bad input if it is not. -/
lemma validate_cases (name : String) :
    isValid name.toList = true ∧ validate name = .ok () ∨
      isValid name.toList = false ∧ ∃ text, validate name = .error (.invalidInput text) := by
  cases valid : isValid name.toList with
  | true => exact Or.inl ⟨rfl, validate_of_isValid valid⟩
  | false =>
    refine Or.inr ⟨rfl, ?_⟩
    rw [validate, valid]
    exact ⟨_, rfl⟩

end NestedTx.Savepoint
