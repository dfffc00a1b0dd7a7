import NestedTx.Text.Ascii

/-!
# The binary form of NUMERIC

PostgreSQL sends an exact decimal as groups of four digits. Behind a header of four words (how
many groups there are, the weight of the first group, a sign and the digits after the point) come
the groups, each a word. Group `g` counts in units of `10000 ^ (weight - g)`; groups that are not
sent are zero.
-/

namespace NestedTx.Wire

open Text

/-- The word of two bytes at index `i`, most significant byte first. -/
def word? (bs : List UInt8) (i : Nat) : Option Nat := do
  let hi ← bs[2 * i]?
  let lo ← bs[2 * i + 1]?
  return 256 * hi.toNat + lo.toNat

/-- A word as a signed number. -/
def signedWord (w : Nat) : Int :=
  if w < 0x8000 then w else (w : Int) - 0x10000

/-- A decimal in groups of four digits. -/
structure Numeric where
  weight : Int
  sign : Nat
  scale : Nat
  groups : List Nat
  deriving Repr, DecidableEq

namespace Numeric

/-- Reads header and groups; `none` if bytes are missing. -/
def ofBytes? (bs : List UInt8) : Option Numeric := do
  let count ← word? bs 0
  let weight ← word? bs 1
  let sign ← word? bs 2
  let scale ← word? bs 3
  let groups ← (List.range count).mapM fun i => word? bs (4 + i)
  return ⟨signedWord weight, sign, scale, groups⟩

/-- The group at index `g`, zero if it is not sent. -/
def group (n : Numeric) (g : Int) : Nat :=
  if g < 0 then 0 else (n.groups[g.toNat]?).getD 0

/-- The digits in front of the point: the first group without leading zeros. -/
def wholeText (n : Numeric) : List Char :=
  if n.weight < 0 then ['0']
  else
    decimal (n.group 0) ++
      (List.range n.weight.toNat).flatMap fun i => padded 4 (n.group (i + 1 : Nat))

/-- The digits after the point, cut to the scale. A group gives at least four digits, so a quarter
of the scale, rounded up, is groups enough. -/
def fractionText (n : Numeric) : List Char :=
  ((List.range ((n.scale + 3) / 4)).flatMap fun (i : Nat) =>
    padded 4 (n.group (n.weight + 1 + (i : Int)))).take n.scale

/-- The decimal as text. Three signs stand for values that are no numbers. -/
def text (n : Numeric) : String :=
  if n.sign = 0xC000 then "NaN"
  else if n.sign = 0xD000 then "Infinity"
  else if n.sign = 0xF000 then "-Infinity"
  else
    String.ofList ((if n.sign = 0x4000 then ['-'] else []) ++ n.wholeText ++
      (if n.scale = 0 then [] else '.' :: n.fractionText))

end Numeric

/-- The text of a binary NUMERIC. -/
def numericText? (bs : List UInt8) : Option String :=
  (Numeric.ofBytes? bs).map Numeric.text

end NestedTx.Wire
