import NestedTx.Text.Ascii
import NestedTx.Text.Utf8

/-!
# Percent encoding

A character that may not stand in a part of a URL is written as its UTF-8 bytes, each as `%` and
two hexadecimal digits. Which characters those are depends on the part: the sets below grow from
one to the next, and every set holds the control characters and everything outside ASCII.
-/

namespace NestedTx.Url

open Text

/-- A byte as `%` and two digits. -/
def encodeByte (b : UInt8) : List Char :=
  ['%', hexUpper (b.toNat / 16), hexUpper (b.toNat % 16)]

/-- Control characters and everything outside ASCII. -/
def inControlSet (c : Char) : Bool :=
  c.toNat < 0x20 || 0x7F ≤ c.toNat

/-- The characters that are encoded in a fragment. -/
def inFragmentSet (c : Char) : Bool :=
  inControlSet c || c == ' ' || c == '"' || c == '<' || c == '>' || c == '\x60'

/-- The characters that are encoded in a path. -/
def inPathSet (c : Char) : Bool :=
  inFragmentSet c || c == '#' || c == '?' || c == '\x7b' || c == '\x7d'

/-- The characters that are encoded in a user name or a password. -/
def inUserinfoSet (c : Char) : Bool :=
  inPathSet c || c == '/' || c == ':' || c == ';' || c == '=' || c == '@' || c == '[' ||
    c == '\\' || c == ']' || c == '^' || c == '|'

/-- The characters that are encoded in a query. -/
def inQuerySet (c : Char) : Bool :=
  inControlSet c || c == ' ' || c == '"' || c == '#' || c == '<' || c == '>'

/-- The characters that are encoded in the query of a special scheme. -/
def inSpecialQuerySet (c : Char) : Bool :=
  inQuerySet c || c == '\''

/-- The text with the characters of a set encoded. -/
def percentEncode (set : Char → Bool) (cs : List Char) : List Char :=
  cs.flatMap fun c => if set c then (String.utf8EncodeChar c).flatMap encodeByte else [c]

/-- The bytes of a percent-encoded text. A `%` without two digits behind it stands for itself. -/
def percentDecode : List UInt8 → List UInt8
  | 0x25 :: h :: l :: rest =>
    match hexDigit? (Char.ofUInt8 h), hexDigit? (Char.ofUInt8 l) with
    | some hi, some lo => UInt8.ofNat (16 * hi + lo) :: percentDecode rest
    | _, _ => 0x25 :: percentDecode (h :: l :: rest)
  | b :: rest => b :: percentDecode rest
  | [] => []

/-- What is not in the set is left alone. -/
theorem percentEncode_eq_self {set : Char → Bool} {cs : List Char} (h : ∀ c ∈ cs, set c = false) :
    percentEncode set cs = cs := by
  induction cs with
  | nil => rfl
  | cons c cs ih =>
    have hc := h c (by simp)
    have := ih fun x hx => h x (by simp [hx])
    simp only [percentEncode] at this ⊢
    simp [hc, this]

end NestedTx.Url
