import NestedTx.Binary64.Format

/-!
# Floating-point numbers of 64 bits

A number is its bits. Arithmetic is exact on the ratios that the bits stand for, and rounded once
at the end, so that it can be reasoned about with natural numbers alone.
-/

namespace NestedTx

/-- A floating-point number of 64 bits. -/
structure Binary64 where
  bits : UInt64
  deriving Repr, DecidableEq, Inhabited

namespace Binary64

/-- The bits below the sign. -/
def magnitude (x : Binary64) : Nat :=
  x.bits.toNat % 0x8000000000000000

/-- Is the sign bit set? -/
def isNegative (x : Binary64) : Bool :=
  0x8000000000000000 ≤ x.bits.toNat

/-- The number with the given sign and magnitude. -/
def ofMagnitude (negative : Bool) (m : Nat) : Binary64 :=
  ⟨UInt64.ofNat (if negative then m + 0x8000000000000000 else m)⟩

/-- Is the number neither infinite nor NaN? -/
def isFinite (x : Binary64) : Bool :=
  x.magnitude < double.infinity

/-- Is the number not a number? -/
def isNaN (x : Binary64) : Bool :=
  double.infinity < x.magnitude

/-- Is the number zero, of either sign? -/
def isZero (x : Binary64) : Bool :=
  x.magnitude == 0

/-- The infinity of the given sign. -/
def infinity (negative : Bool) : Binary64 :=
  ofMagnitude negative double.infinity

/-- The value that is not a number. -/
def nan : Binary64 := ⟨0x7FF8000000000000⟩

/-- The zero of the given sign. -/
def zero (negative : Bool) : Binary64 :=
  ofMagnitude negative 0

/-- The number closest to a ratio. -/
def ofRatio (negative : Bool) (num den : Nat) : Binary64 :=
  ofMagnitude negative (double.nearest num den)

/-- The number closest to an integer. -/
def ofInt (i : Int) : Binary64 :=
  ofRatio (i < 0) i.natAbs 1

/-- The numerator and denominator of a finite magnitude. -/
def ratio (x : Binary64) : Nat × Nat :=
  let (m, e) := double.parts x.magnitude
  unscale 2 (-e) m 1

/-- The product of two finite magnitudes. -/
def mul (x y : Binary64) : Binary64 :=
  let (a, b) := x.ratio
  let (c, d) := y.ratio
  ofRatio (x.isNegative != y.isNegative) (a * c) (b * d)

/-- The quotient of two finite magnitudes, the second of them not zero. -/
def div (x y : Binary64) : Binary64 :=
  let (a, b) := x.ratio
  let (c, d) := y.ratio
  ofRatio (x.isNegative != y.isNegative) (a * d) (b * c)

/-- The number with the other sign. -/
def neg (x : Binary64) : Binary64 :=
  ofMagnitude (!x.isNegative) x.magnitude

/-- The number of 64 bits that a number of 32 bits stands for. -/
def ofSingle (bits : UInt32) : Binary64 :=
  let negative := 0x80000000 ≤ bits.toNat
  let m := bits.toNat % 0x80000000
  if single.infinity < m then nan
  else if m = single.infinity then infinity negative
  else
    let (s, e) := single.parts m
    let (num, den) := unscale 2 (-e) s 1
    ofRatio negative num den

end Binary64

end NestedTx
