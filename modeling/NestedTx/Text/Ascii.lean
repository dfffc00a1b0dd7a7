/-!
# ASCII text

Digits in the bases ten and sixteen, numbers written to a fixed width, and the comparison of text
without regard to the case of its ASCII letters.
-/

namespace NestedTx.Text

/-- The value of a decimal digit. -/
def digit? (c : Char) : Option Nat :=
  if '0' ≤ c ∧ c ≤ '9' then some (c.toNat - 48) else none

/-- Is the character a decimal digit? -/
def isDigit (c : Char) : Bool :=
  (digit? c).isSome

/-- The value of a hexadecimal digit, in either case. -/
def hexDigit? (c : Char) : Option Nat :=
  if '0' ≤ c ∧ c ≤ '9' then some (c.toNat - 48)
  else if 'a' ≤ c ∧ c ≤ 'f' then some (c.toNat - 87)
  else if 'A' ≤ c ∧ c ≤ 'F' then some (c.toNat - 55)
  else none

/-- The lower-case hexadecimal digit of a value below sixteen. -/
def hexLower (n : Nat) : Char :=
  if n < 10 then Char.ofNat (48 + n) else Char.ofNat (87 + n)

/-- The upper-case hexadecimal digit of a value below sixteen. -/
def hexUpper (n : Nat) : Char :=
  if n < 10 then Char.ofNat (48 + n) else Char.ofNat (55 + n)

/-- The decimal digits of a number. -/
def decimal (n : Nat) : List Char :=
  Nat.toDigits 10 n

/-- The decimal digits of a number, with zeros in front up to the given width. -/
def padded (width n : Nat) : List Char :=
  let ds := decimal n
  List.replicate (width - ds.length) '0' ++ ds

/-- The bytes as lower-case hexadecimal digits, two to a byte. -/
def hexOfBytes (bs : List UInt8) : List Char :=
  bs.flatMap fun b => [hexLower (b.toNat / 16), hexLower (b.toNat % 16)]

/-- Reads pairs of hexadecimal digits as bytes. -/
def bytesOfHex? : List Char → Option (List UInt8)
  | [] => some []
  | a :: b :: rest => do
    let hi ← hexDigit? a
    let lo ← hexDigit? b
    let bs ← bytesOfHex? rest
    return UInt8.ofNat (16 * hi + lo) :: bs
  | [_] => none

/-- The text with its ASCII letters in lower case. -/
def lowercase (cs : List Char) : List Char :=
  cs.map Char.toLower

/-- The text with its ASCII letters in lower case, and with the Kelvin sign, the one other
character whose lower case is an ASCII letter, as `k`. -/
def foldCase (cs : List Char) : List Char :=
  cs.map fun c => if c.toNat = 0x212A then 'k' else c.toLower

/-- Are two texts the same up to the case of ASCII letters? -/
def eqIgnoringCase (a b : List Char) : Bool :=
  lowercase a == lowercase b

/-- Does `word` occur in the text? -/
def occursIn (word : List Char) : List Char → Bool
  | [] => word.isEmpty
  | c :: cs => word.isPrefixOf (c :: cs) || occursIn word cs

/-- What is left of the text after `word` is taken off its front. -/
def afterWord? : (word text : List Char) → Option (List Char)
  | [], text => some text
  | _ :: _, [] => none
  | w :: ws, c :: cs => if w = c then afterWord? ws cs else none

/-- The text without every copy of `word` at its front. -/
def dropCopies (word : List Char) : Nat → List Char → List Char
  | 0, cs => cs
  | n + 1, cs => if word.isEmpty then cs else
    match afterWord? word cs with
    | some rest => dropCopies word n rest
    | none => cs

/-- The text without every copy of `word` at its front. -/
def trimStart (word cs : List Char) : List Char :=
  dropCopies word cs.length cs

/-- The text without every copy of `word` at its end. -/
def trimEnd (word cs : List Char) : List Char :=
  (trimStart word.reverse cs.reverse).reverse

/-- The two parts of a text around its first `c`, if there is one. -/
def splitFirst? (c : Char) (cs : List Char) : Option (List Char × List Char) :=
  match cs.dropWhile (· != c) with
  | [] => none
  | _ :: rest => some (cs.takeWhile (· != c), rest)

theorem afterWord?_eq_some_iff {word text rest : List Char} :
    afterWord? word text = some rest ↔ text = word ++ rest := by
  induction word generalizing text with
  | nil => simp [afterWord?, eq_comm]
  | cons w ws ih =>
    cases text with
    | nil => simp [afterWord?]
    | cons c cs =>
      by_cases h : w = c
      · subst h; simp [afterWord?, ih]
      · simp [afterWord?, h, Ne.symm h]

end NestedTx.Text
