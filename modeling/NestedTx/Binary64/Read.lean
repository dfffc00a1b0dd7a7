import NestedTx.Binary64.Basic
import NestedTx.Text.Integer

/-!
# Reading a decimal as a floating-point number

A number is an optional sign and then either `inf`, `infinity` or `nan` in any case, or digits
with an optional point, of which at least one digit must be there, and an optional exponent. It
is read as the closest representable number.
-/

namespace NestedTx.Binary64

open Text

/-- A decimal as written: the value of its digits and the power of ten of the last one. -/
structure Decimal where
  digits : Nat
  exponent : Int
  deriving Repr, DecidableEq

/-- What a text stands for apart from its sign. -/
inductive Magnitude where
  | infinite
  | notANumber
  | finite (d : Decimal)
  deriving Repr, DecidableEq

/-- The bits of the magnitude closest to a decimal. Exponents so large or small that the result
is certain are settled first. -/
def Format.nearestDecimal (f : Format) (d : Decimal) : Nat :=
  if d.digits = 0 then 0
  else
    let top := d.exponent + (decimal d.digits).length
    if top < -400 then 0
    else if 400 < top then f.infinity
    else
      let (num, den) := unscale 10 (-d.exponent) d.digits 1
      f.nearest num den

/-- Reads an exponent after its mark. -/
def exponent? (cs : List Char) : Option Int :=
  match cs with
  | '+' :: rest => (digits? rest).map Int.ofNat
  | '-' :: rest => (digits? rest).map fun n => -(n : Int)
  | _ => (digits? cs).map Int.ofNat

/-- Reads digits with an optional point and an optional exponent. -/
def decimal? (cs : List Char) : Option Decimal := do
  let isMark := fun c : Char => c == 'e' || c == 'E'
  let mantissa := cs.takeWhile fun c => !isMark c
  let exponent ← match cs.dropWhile fun c => !isMark c with
    | [] => some 0
    | _ :: rest => exponent? rest
  let (whole, fraction) := (splitFirst? '.' mantissa).getD (mantissa, [])
  let value ← digits? (whole ++ fraction)
  return ⟨value, exponent - fraction.length⟩

/-- Reads a magnitude. -/
def magnitude? (cs : List Char) : Option Magnitude :=
  let word := lowercase cs
  if word = "inf".toList ∨ word = "infinity".toList then some .infinite
  else if word = "nan".toList then some .notANumber
  else (decimal? cs).map .finite

/-- Reads a number with its sign. -/
def signed? (cs : List Char) : Option (Bool × Magnitude) :=
  match cs with
  | '-' :: rest => (magnitude? rest).map (true, ·)
  | '+' :: rest => (magnitude? rest).map (false, ·)
  | _ => (magnitude? cs).map (false, ·)

/-- Reads a number of 64 bits. -/
def read? (cs : List Char) : Option Binary64 :=
  (signed? cs).map fun
    | (negative, .infinite) => infinity negative
    | (_, .notANumber) => nan
    | (negative, .finite d) => ofMagnitude negative (double.nearestDecimal d)

/-- Reads a number of 32 bits and widens it. -/
def readSingle? (cs : List Char) : Option Binary64 :=
  (signed? cs).map fun
    | (negative, .infinite) => infinity negative
    | (_, .notANumber) => nan
    | (negative, .finite d) =>
      let m := single.nearestDecimal d
      ofSingle (UInt32.ofNat (if negative then m + 0x80000000 else m))

end NestedTx.Binary64
