/-!
# Binary floating-point formats

A format keeps a magnitude as a number of units in the last place, `m * 2 ^ e`, with a fixed
number of bits for `m` and a smallest exponent `e`. A magnitude is named by its bits: they count
the representable magnitudes from zero upwards, so that larger bits mean a larger magnitude.
`Format.nearest` rounds an exact ratio to the closest magnitude, a tie to the even one.
-/

namespace NestedTx.Binary64

-- powers are those of the core library, whatever else is imported
attribute [local instance (high)] instPowNat

/-- A binary format: the bits of a full significand, the exponent of the smallest unit, and the
bits that stand for infinity. -/
structure Format where
  precision : Nat
  minExponent : Int
  infinity : Nat
  deriving Repr, DecidableEq

/-- The format of 64 bits. -/
def double : Format := ⟨53, -1074, 0x7FF0000000000000⟩

/-- The format of 32 bits. -/
def single : Format := ⟨24, -149, 0x7F800000⟩

/-- The whole number closest to `num / den`; of two equally close ones the even one. -/
def roundHalfEven (num den : Nat) : Nat :=
  let q := num / den
  let r := num % den
  if 2 * r < den ∨ (2 * r = den ∧ q % 2 = 0) then q else q + 1

/-- The ratio `num / den / b ^ e`, as numerator and denominator. -/
def unscale (b : Nat) (e : Int) (num den : Nat) : Nat × Nat :=
  if 0 ≤ e then (num, den * b ^ e.toNat) else (num * b ^ (-e).toNat, den)

/-- The exponent `k` with `2 ^ k ≤ num / den < 2 ^ (k + 1)`, for positive numbers. -/
def floorLog2 (num den : Nat) : Int :=
  let k : Int := (num.log2 : Int) - den.log2
  let (n, d) := unscale 2 k num den
  if d ≤ n then k else k - 1

namespace Format

/-- The bits of the magnitude closest to `num / den`. -/
def nearest (f : Format) (num den : Nat) : Nat :=
  if num = 0 then 0 else
    let e := max (floorLog2 num den - (f.precision - 1)) f.minExponent
    let (n, d) := unscale 2 e num den
    min ((e - f.minExponent).toNat * 2 ^ (f.precision - 1) + roundHalfEven n d) f.infinity

/-- The significand and exponent of a finite magnitude. -/
def parts (f : Format) (bits : Nat) : Nat × Int :=
  let unit := 2 ^ (f.precision - 1)
  if bits / unit = 0 then (bits, f.minExponent)
  else (bits % unit + unit, f.minExponent + (bits / unit - 1 : Nat))

end Format

end NestedTx.Binary64
