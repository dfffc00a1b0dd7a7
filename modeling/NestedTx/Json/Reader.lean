import NestedTx.Json.Basic
import NestedTx.Json.Document
import NestedTx.Text.Integer
import NestedTx.Binary64.Read

/-!
# Reading JSON values

The value of a document. Integers that fit 64 bits stay integers. Any other number is computed
from the digits that fit an unsigned number of 64 bits, as that number times or divided by one
power of ten, so the last place may differ from the closest number. Arrays and objects may lie at
most 127 deep, and an escaped surrogate must be one of a pair.
-/

namespace NestedTx.Json

open Text

-- powers are those of the core library, whatever else is imported
attribute [local instance (high)] instPowNat

/-- Appends digits to a number as long as it fits 64 bits: the number, and how many digits were
not taken. -/
def appendDigits (acc : Nat) : List Nat → Nat × List Nat
  | [] => (acc, [])
  | d :: ds => if 10 * acc + d ≤ maxU64 then appendDigits (10 * acc + d) ds else (acc, d :: ds)

/-- Scales a number by a power of ten. Beyond the largest power it is divided by that power as
often as needed; a result that is too large is refused. -/
def scale? (x : Binary64) (exponent : Int) : Option Binary64 :=
  if exponent.natAbs ≤ 308 then
    let power := Binary64.ofRatio false (10 ^ exponent.natAbs) 1
    if 0 ≤ exponent then (some (x.mul power)).filter Binary64.isFinite
    else some (x.div power)
  else if x.isZero then some x
  else if 0 ≤ exponent then none
  else scale? (x.div (Binary64.ofRatio false (10 ^ (308 : Nat)) 1)) (exponent + 308)
termination_by (-exponent).toNat
decreasing_by omega

namespace Numeral

/-- The digits of the number that count, and the power of ten of the last of them. -/
def significand (n : Numeral) : Nat × Int :=
  let (value, left) := appendDigits 0 n.whole
  let fraction := n.fraction.getD []
  let (value, unread) := appendDigits value fraction
  (value, (left.length : Int) - (fraction.length - unread.length : Nat))

/-- The value of a number that is written with a point or an exponent or is too large. -/
def float? (n : Numeral) : Option Binary64 :=
  let (value, low) := n.significand
  let (down, exponent) := match n.exponent with
    | none => (false, 0)
    | some (down, ds) => (down, ds.foldl (fun acc d => 10 * acc + d) 0)
  let magnitude :=
    if 2147483647 < exponent then
      if value = 0 ∨ down then some (Binary64.zero false) else none
    else scale? (Binary64.ofRatio false value 1) (if down then low - exponent else low + exponent)
  magnitude.map fun x => if n.negative then x.neg else x

/-- The value of a number. A negative zero is a floating-point number. -/
def value? (n : Numeral) : Option Json :=
  let (value, left) := appendDigits 0 n.whole
  if n.fraction.isNone ∧ n.exponent.isNone ∧ left = [] then
    if !n.negative then some (.int value)
    else if 0 < value ∧ value ≤ 9223372036854775808 then some (.int (-(value : Int)))
    else n.float?.map .float
  else n.float?.map .float

end Numeral

/-- The text of a string, in which escaped surrogates stand in pairs. -/
def piecesText? : List Piece → Option (List Char)
  | [] => some []
  | .char c :: rest => (piecesText? rest).map (c :: ·)
  | .unit high :: .unit low :: rest =>
    if 0xD800 ≤ high ∧ high ≤ 0xDBFF then
      if 0xDC00 ≤ low ∧ low ≤ 0xDFFF then
        let code := 0x10000 + (high - 0xD800) * 0x400 + (low - 0xDC00)
        (piecesText? rest).map (Char.ofNat code :: ·)
      else none
    else if 0xDC00 ≤ high ∧ high ≤ 0xDFFF then none
    else (piecesText? (.unit low :: rest)).map (Char.ofNat high :: ·)
  | .unit code :: rest =>
    if 0xD800 ≤ code ∧ code ≤ 0xDFFF then none
    else (piecesText? rest).map (Char.ofNat code :: ·)

namespace Document

mutual

/-- The value of a document whose arrays and objects lie less than `depth` deep. -/
def value? : (depth : Nat) → Document → Option Json
  | _, .null => some .null
  | _, .bool b => some (.bool b)
  | _, .number n => n.value?
  | _, .str ps => (piecesText? ps).map fun cs => .str (String.ofList cs)
  | depth, .arr items =>
    if depth ≤ 1 then none else (itemValues? (depth - 1) items).map .arr
  | depth, .obj fields =>
    if depth ≤ 1 then none else (fieldValues? (depth - 1) fields).map object

/-- The values of the items of an array. -/
def itemValues? : (depth : Nat) → List Document → Option (List Json)
  | _, [] => some []
  | depth, d :: ds => do
    let v ← value? depth d
    let vs ← itemValues? depth ds
    return v :: vs

/-- The names and values of the fields of an object. -/
def fieldValues? : (depth : Nat) → List (List Piece × Document) → Option (List (String × Json))
  | _, [] => some []
  | depth, (ps, d) :: ds => do
    let name ← piecesText? ps
    let v ← value? depth d
    let vs ← fieldValues? depth ds
    return (String.ofList name, v) :: vs

end

end Document

/-- The depth that a text may not reach. -/
def depthLimit : Nat := 128

/-- Reads a text that holds one value and nothing else but blanks. -/
def read? (cs : List Char) : Option Json := do
  (← Document.read? cs).value? depthLimit

end NestedTx.Json
