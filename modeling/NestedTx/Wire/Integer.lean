/-!
# Integers in bytes

Whole numbers as sequences of bytes in either order, with or without a sign in two's complement.
-/

namespace NestedTx.Wire

-- powers are those of the core library, whatever else is imported
attribute [local instance (high)] instPowNat

/-- The unsigned number in bytes, the least significant first. -/
def natOfLittle : List UInt8 → Nat
  | [] => 0
  | b :: bs => b.toNat + 256 * natOfLittle bs

/-- The unsigned number in bytes, the most significant first. -/
def natOfBig (bs : List UInt8) : Nat :=
  natOfLittle bs.reverse

/-- The signed number for an unsigned one of the given number of bytes. -/
def signed (count n : Nat) : Int :=
  if 2 * n < 256 ^ count then n else (n : Int) - 256 ^ count

/-- The signed number in bytes, the least significant first. -/
def intOfLittle (bs : List UInt8) : Int :=
  signed bs.length (natOfLittle bs)

/-- The signed number in bytes, the most significant first. -/
def intOfBig (bs : List UInt8) : Int :=
  signed bs.length (natOfBig bs)

/-- The lowest bytes of a number, the least significant first. -/
def littleOfNat : (count : Nat) → Nat → List UInt8
  | 0, _ => []
  | count + 1, n => UInt8.ofNat (n % 256) :: littleOfNat count (n / 256)

/-- The lowest bytes of a number, the most significant first. -/
def bigOfNat (count n : Nat) : List UInt8 :=
  (littleOfNat count n).reverse

/-- A signed number in two's complement, the least significant byte first. -/
def littleOfInt (count : Nat) (i : Int) : List UInt8 :=
  littleOfNat count (i % 256 ^ count).toNat

/-- A signed number in two's complement, the most significant byte first. -/
def bigOfInt (count : Nat) (i : Int) : List UInt8 :=
  (littleOfInt count i).reverse

theorem length_littleOfNat (count n : Nat) : (littleOfNat count n).length = count := by
  induction count generalizing n with
  | zero => rfl
  | succ count ih => simp [littleOfNat, ih]

/-- Reading bytes gives back the number they were written from, up to what they can hold. -/
theorem natOfLittle_littleOfNat (count n : Nat) :
    natOfLittle (littleOfNat count n) = n % 256 ^ count := by
  induction count generalizing n with
  | zero => simp [littleOfNat, natOfLittle, Nat.mod_one]
  | succ count ih =>
    have h : (UInt8.ofNat (n % 256)).toNat = n % 256 := by
      simp [UInt8.toNat_ofNat']
    rw [littleOfNat, natOfLittle, ih, h, Nat.pow_succ', Nat.mod_mul]

end NestedTx.Wire
