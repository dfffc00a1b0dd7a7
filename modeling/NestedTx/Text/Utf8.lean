/-!
# UTF-8

Text as bytes and back. `utf8Step` reads one character from the front of a list of bytes, or says
how many bytes belong together to a malformed piece. Strict decoding gives up at such a piece;
lossy decoding puts U+FFFD in its place. The first malformed piece can be asked for.
-/

namespace NestedTx.Text

/-- The UTF-8 form of a text. -/
def utf8 (cs : List Char) : List UInt8 :=
  cs.flatMap String.utf8EncodeChar

/-- The number of continuation bytes that a first byte asks for, and the range of the first of
them; `none` for a byte that starts no character. The ranges leave out overlong forms, surrogates
and values above U+10FFFF. -/
def leadByte? (b : UInt8) : Option (Nat × UInt8 × UInt8) :=
  if b < 0x80 then some (0, 0x80, 0xBF)
  else if b < 0xC2 then none
  else if b < 0xE0 then some (1, 0x80, 0xBF)
  else if b = 0xE0 then some (2, 0xA0, 0xBF)
  else if b = 0xED then some (2, 0x80, 0x9F)
  else if b < 0xF0 then some (2, 0x80, 0xBF)
  else if b = 0xF0 then some (3, 0x90, 0xBF)
  else if b < 0xF4 then some (3, 0x80, 0xBF)
  else if b = 0xF4 then some (3, 0x80, 0x8F)
  else none

/-- The bits of a first byte that belong to the code point. -/
def leadBits (b : UInt8) : Nat :=
  if b < 0x80 then b.toNat
  else if b < 0xE0 then b.toNat % 32
  else if b < 0xF0 then b.toNat % 16
  else b.toNat % 8

/-- Reads the continuation bytes that are still due: `count` of them, the first within
`[low, high]`. Gives the code point or `none`, and the bytes after the last one that fits. -/
def utf8Continue (value : Nat) (low high : UInt8) : Nat → List UInt8 → Option Nat × List UInt8
  | 0, bs => (some value, bs)
  | _ + 1, [] => (none, [])
  | n + 1, b :: bs =>
    if low ≤ b && b ≤ high then utf8Continue (64 * value + b.toNat % 64) 0x80 0xBF n bs
    else (none, b :: bs)

/-- Reads the character that starts with `b`, or finds the malformed piece that does. -/
def utf8Step (b : UInt8) (bs : List UInt8) : Option Char × List UInt8 :=
  match leadByte? b with
  | none => (none, bs)
  | some (count, low, high) =>
    let (value, rest) := utf8Continue (leadBits b) low high count bs
    (value.map Char.ofNat, rest)

theorem utf8Continue_length (value : Nat) (low high : UInt8) (n : Nat) (bs : List UInt8) :
    (utf8Continue value low high n bs).2.length ≤ bs.length := by
  induction n generalizing value low high bs with
  | zero => simp [utf8Continue]
  | succ n ih =>
    cases bs with
    | nil => simp [utf8Continue]
    | cons b bs =>
      simp only [utf8Continue]
      split
      · exact Nat.le_succ_of_le (ih ..)
      · simp

theorem utf8Step_length (b : UInt8) (bs : List UInt8) :
    (utf8Step b bs).2.length ≤ bs.length := by
  unfold utf8Step
  split
  · simp
  · exact utf8Continue_length ..

/-- Reads UTF-8 text; `none` if any piece is malformed. -/
def utf8Decode? : List UInt8 → Option (List Char)
  | [] => some []
  | b :: bs =>
    match h : utf8Step b bs with
    | (none, _) => none
    | (some c, rest) =>
      have : rest.length < bs.length + 1 :=
        Nat.lt_succ_of_le (by simpa [h] using utf8Step_length b bs)
      (utf8Decode? rest).map (c :: ·)
termination_by bs => bs.length

/-- Reads UTF-8 text, with U+FFFD in place of each malformed piece. -/
def utf8DecodeLossy : List UInt8 → List Char
  | [] => []
  | b :: bs =>
    match h : utf8Step b bs with
    | (c, rest) =>
      have : rest.length < bs.length + 1 :=
        Nat.lt_succ_of_le (by simpa [h] using utf8Step_length b bs)
      c.getD '\uFFFD' :: utf8DecodeLossy rest
termination_by bs => bs.length

/-- A malformed piece: the index of its first byte and its length. A piece that only lacks the bytes
behind the end of the text has no length. -/
structure Utf8Fault where
  index : Nat
  length : Option Nat
  deriving Repr, DecidableEq

/-- The text for a malformed piece. -/
def Utf8Fault.message (f : Utf8Fault) : String :=
  match f.length with
  | some n =>
    "invalid utf-8 sequence of " ++ toString n ++ " bytes from index " ++ toString f.index
  | none => "incomplete utf-8 byte sequence from index " ++ toString f.index

/-- The first malformed piece of bytes that stand at an index. -/
def utf8Fault? (index : Nat) : List UInt8 → Option Utf8Fault
  | [] => none
  | b :: bs =>
    match h : utf8Step b bs with
    | (c, rest) =>
      have : rest.length < bs.length + 1 :=
        Nat.lt_succ_of_le (by simpa [h] using utf8Step_length b bs)
      let length := bs.length + 1 - rest.length
      match c with
      | some _ => utf8Fault? (index + length) rest
      | none => some ⟨index, if rest = [] ∧ (leadByte? b).isSome then none else some length⟩
termination_by bs => bs.length

end NestedTx.Text
