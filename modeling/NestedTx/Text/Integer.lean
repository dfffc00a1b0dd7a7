import NestedTx.Text.Ascii

/-!
# Integers in decimal

An integer is a nonempty run of decimal digits, with leading zeros allowed; a plus sign may stand
in front of any integer and a minus sign in front of a signed one. Nothing else may stand around
it, and the value must lie within the bounds that the reader is given.
-/

namespace NestedTx.Text

/-- The value of a run of decimal digits read after a part with value `acc`. -/
def digitsValue? (acc : Nat) : List Char → Option Nat
  | [] => some acc
  | c :: cs => do digitsValue? (10 * acc + (← digit? c)) cs

/-- Reads a nonempty run of decimal digits. -/
def digits? (cs : List Char) : Option Nat :=
  if cs.isEmpty then none else digitsValue? 0 cs

/-- Reads an unsigned integer of at most `max`. -/
def natural? (max : Nat) (cs : List Char) : Option Nat :=
  let body := match cs with
    | '+' :: rest => rest
    | _ => cs
  (digits? body).filter (· ≤ max)

/-- Reads a signed integer from `min` to `max`. -/
def integer? (min max : Int) (cs : List Char) : Option Int :=
  let value := match cs with
    | '+' :: rest => (digits? rest).map Int.ofNat
    | '-' :: rest => (digits? rest).map fun n => -(n : Int)
    | _ => (digits? cs).map Int.ofNat
  value.filter fun i => min ≤ i && i ≤ max

/-- The largest unsigned number of 32 bits. -/
def maxU32 : Nat := 4294967295

/-- The largest unsigned number of 64 bits. -/
def maxU64 : Nat := 18446744073709551615

/-- The smallest signed number of 64 bits. -/
def minI64 : Int := -9223372036854775808

/-- The largest signed number of 64 bits. -/
def maxI64 : Int := 9223372036854775807

/-- Reads a signed integer of 64 bits. -/
def int64? (cs : List Char) : Option Int :=
  integer? minI64 maxI64 cs

end NestedTx.Text
