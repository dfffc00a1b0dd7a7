import NestedTx.Binary64.Basic
import NestedTx.Text.Ascii

/-!
# The shortest decimal that reads back

Among the decimals `c * 10 ^ j` that round to a given number, those with the largest `j` have the
fewest digits; of these the one closest to the number is taken. All comparisons are made on exact
natural numbers.
-/

namespace NestedTx.Binary64

-- powers are those of the core library, whatever else is imported
attribute [local instance (high)] instPowNat

/-- The reals that round to a magnitude: its value and the ends of the interval as multiples of a
common unit `num / den`, and whether the ends belong to it. -/
structure Interval where
  low : Nat
  value : Nat
  high : Nat
  num : Nat
  den : Nat
  closed : Bool
  deriving Repr

/-- The interval of a finite magnitude. Below a power of two the gap is half as wide. -/
def intervalOf (f : Format) (bits : Nat) : Interval :=
  let (m, e) := f.parts bits
  let (num, den) := unscale 2 (2 - e) 1 1
  let narrow := m = 2 ^ (f.precision - 1) ∧ f.minExponent < e
  ⟨if narrow then 4 * m - 1 else 4 * m - 2, 4 * m, 4 * m + 2, num, den, m % 2 = 0⟩

namespace Interval

/-- Does `c * 10 ^ j` lie in the interval? -/
def holds (i : Interval) (j : Int) (c : Nat) : Bool :=
  let (n, d) := unscale 10 (-j) (c * i.den) i.num
  if i.closed then i.low * d ≤ n && n ≤ i.high * d else i.low * d < n && n < i.high * d

/-- The decimal with last digit at `10 ^ j` that lies in the interval, the closest to its value. -/
def at? (i : Interval) (j : Int) : Option Nat :=
  let (n, d) := unscale 10 j (i.value * i.num) i.den
  let c := n / d
  let r := n % d
  match i.holds j c, i.holds j (c + 1) with
  | true, true => some (if 2 * r < d ∨ (2 * r = d ∧ c % 2 = 0) then c else c + 1)
  | true, false => some c
  | false, true => some (c + 1)
  | false, false => none

/-- The first hit among the `fuel` positions from `10 ^ j` downwards. -/
def search (i : Interval) : (fuel : Nat) → (j : Int) → Nat × Int
  | 0, j => (0, j)
  | fuel + 1, j =>
    match i.at? j with
    | some c => (c, j)
    | none => i.search fuel (j - 1)

end Interval

/-- The digits and the power of ten of the shortest decimal for a positive finite magnitude. At
most seventeen digits are ever needed, and the first position lies above the leading digit. -/
def shortest (bits : Nat) : Nat × Int :=
  let i := intervalOf double bits
  let top : Int := ((Text.decimal (i.value * i.num)).length : Int) - (Text.decimal i.den).length + 1
  i.search 24 top

end NestedTx.Binary64
