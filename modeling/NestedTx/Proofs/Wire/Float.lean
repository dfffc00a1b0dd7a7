import NestedTx.Proofs.Binary64.Single
import NestedTx.Proofs.Text.Utf8
import NestedTx.Proofs.Wire.Integer
import NestedTx.Wire.MySql
import NestedTx.Wire.Postgres

/-!
# Columns of single precision

A number of 32 bits comes as a decimal or in its four bytes, which are widened and give the number
that the column has. PostgreSQL's decimals are read in 32 bits and give the same number. MySQL's
are read in 64 bits: they give the number of 64 bits that is closest to the decimal, and this is
another one as soon as some number is closer to the decimal than the one in the column.
-/

namespace NestedTx.Wire

open Text Binary64

lemma floatJson_of_isFinite {x : Binary64} (h : x.isFinite) : floatJson x = .float x := by
  rw [floatJson, if_pos h]

/-- In PostgreSQL both forms of a finite number of 32 bits give the number in the column. -/
theorem Postgres.float4_readings {x : UInt32} {cs : List Char}
    (finite : x.toNat % 0x80000000 < single.infinity)
    (text : readSingle? cs = some (ofSingle x)) :
    value? .text "FLOAT4" (utf8 cs) = some (.float (ofSingle x)) ∧
      value? .binary "FLOAT4" (bigOfNat 4 x.toNat) = some (.float (ofSingle x)) := by
  have category : Category.ofType "FLOAT4" .postgresql = .float := by decide +kernel
  have json := floatJson_of_isFinite (value_ofSingle finite).1
  have length := length_bigOfNat 4 x.toNat
  have number : natOfBig (bigOfNat 4 x.toNat) = x.toNat := natOfBig_bigOfNat_of_lt x.toNat_lt
  -- the reader of 64 bits, which is tried first, refuses the type
  have refused (format : Format) (bs : List UInt8) : readFloat64? format "FLOAT4" bs = none :=
    if_neg (by decide)
  have fromText : readFloat32? .text "FLOAT4" (utf8 cs) = some (ofSingle x) := by
    simp [readFloat32?, utf8Decode?_utf8, text]
  have fromBytes : readFloat32? .binary "FLOAT4" (bigOfNat 4 x.toNat) = some (ofSingle x) := by
    simp [readFloat32?, length, List.take_of_length_le, number]
  constructor
  · rw [value?, category]
    simp only [refused, fromText, Option.none_or, Option.map_some, json]
  · rw [value?, category]
    simp only [refused, fromBytes, Option.none_or, Option.map_some, json]

namespace MySql

lemma ofType_float : Category.ofType "FLOAT" .mysql = .float := by decide +kernel

/-- The reader of 64 bits is tried first, and takes decimals of either width. -/
lemma value?_float_text {cs : List Char} {y : Binary64} (read : read? cs = some y)
    (finite : y.isFinite) : value? .text "FLOAT" (utf8 cs) = some (.float y) := by
  have taken : readFloat64? .text "FLOAT" (utf8 cs) = some y := by
    rw [readFloat64?, if_pos ofType_float, utf8Decode?_utf8, Option.bind_some, read]
  rw [value?, ofType_float]
  simp only [taken, Option.some_or, Option.map_some, floatJson_of_isFinite finite]

lemma value?_float_bytes {x : UInt32} (finite : (ofSingle x).isFinite) :
    value? .binary "FLOAT" (littleOfNat 4 x.toNat) = some (.float (ofSingle x)) := by
  have taken : readFloat64? .binary "FLOAT" (littleOfNat 4 x.toNat) = some (ofSingle x) := by
    have number : natOfLittle (littleOfNat 4 x.toNat) = x.toNat :=
      natOfLittle_littleOfNat_of_lt x.toNat_lt
    rw [readFloat64?, if_pos ofType_float]
    simp only [length_littleOfNat, ↓reduceIte, number, UInt32.ofNat_toNat]
  rw [value?, ofType_float]
  simp only [taken, Option.some_or, Option.map_some, floatJson_of_isFinite finite]

/-- A finite number of 32 bits in a column, sent as a decimal that reads back as it in 32 bits or
in its four bytes. Both are numbers in JSON. The one of the bytes is the number in the column, the
one of the decimal is a closest one to the decimal, and they are the same exactly if no number of
64 bits is closer to the decimal than the one in the column. -/
theorem float_readings {x : UInt32} {cs : List Char}
    (finite : x.toNat % 0x80000000 < single.infinity)
    (text : readSingle? cs = some (ofSingle x)) :
    ∃ q y, exactValue? cs = some q ∧
      value? .text "FLOAT" (utf8 cs) = some (.float y) ∧
      value? .binary "FLOAT" (littleOfNat 4 x.toNat) = some (.float (ofSingle x)) ∧
      (ofSingle x).isFinite ∧ (ofSingle x).value = singleValue x ∧
      y.isFinite ∧ (∀ z : Binary64, z.isFinite → |y.value - q| ≤ |z.value - q|) ∧
      (value? .text "FLOAT" (utf8 cs) = value? .binary "FLOAT" (littleOfNat 4 x.toNat) ↔
        ∀ z : Binary64, z.isFinite → |(ofSingle x).value - q| ≤ |z.value - q|) := by
  obtain ⟨q, y, exact, read, finiteText, closest, agree⟩ := two_readings finite text
  obtain ⟨finiteBytes, same⟩ := value_ofSingle finite
  have fromText := value?_float_text read finiteText
  have fromBytes := value?_float_bytes finiteBytes
  refine ⟨q, y, exact, fromText, fromBytes, finiteBytes, same, finiteText, closest, ?_⟩
  rw [fromText, fromBytes, Option.some.injEq, Json.float.injEq]
  exact agree

theorem float_readings_ten_and_a_half :
    (0x41280000 : UInt32).toNat % 0x80000000 < single.infinity ∧
      readSingle? "10.5".toList = some (ofSingle 0x41280000) ∧
      ∃ q y, exactValue? "10.5".toList = some q ∧
        value? .text "FLOAT" (utf8 "10.5".toList) = some (.float y) ∧
        value? .binary "FLOAT" (littleOfNat 4 (0x41280000 : UInt32).toNat) =
          some (.float (ofSingle 0x41280000)) ∧
        (ofSingle 0x41280000).isFinite ∧ (ofSingle 0x41280000).value = singleValue 0x41280000 ∧
        y.isFinite ∧ (∀ z : Binary64, z.isFinite → |y.value - q| ≤ |z.value - q|) ∧
        (value? .text "FLOAT" (utf8 "10.5".toList) =
            value? .binary "FLOAT" (littleOfNat 4 (0x41280000 : UInt32).toNat) ↔
          ∀ z : Binary64, z.isFinite → |(ofSingle 0x41280000).value - q| ≤ |z.value - q|) :=
  have finite : (0x41280000 : UInt32).toNat % 0x80000000 < single.infinity := by decide
  have text : readSingle? "10.5".toList = some (ofSingle 0x41280000) := by decide +kernel
  ⟨finite, text, float_readings finite text⟩

/-- A tenth reads back as the number in the column, and there are closer ones in 64 bits. -/
theorem float_readings_differ :
    (0x3DCCCCCD : UInt32).toNat % 0x80000000 < single.infinity ∧
      readSingle? "0.1".toList = some (ofSingle 0x3DCCCCCD) ∧
      littleOfNat 4 (0x3DCCCCCD : UInt32).toNat = [0xCD, 0xCC, 0xCC, 0x3D] ∧
      value? .text "FLOAT" (utf8 "0.1".toList) = some (.float ⟨0x3FB999999999999A⟩) ∧
      value? .binary "FLOAT" [0xCD, 0xCC, 0xCC, 0x3D] = some (.float ⟨0x3FB99999A0000000⟩) := by
  have bytes : littleOfNat 4 (0x3DCCCCCD : UInt32).toNat = [0xCD, 0xCC, 0xCC, 0x3D] := by
    decide +kernel
  have wide : ofSingle 0x3DCCCCCD = ⟨0x3FB99999A0000000⟩ := by decide +kernel
  refine ⟨by decide, by decide +kernel, bytes, ?_, ?_⟩
  · exact value?_float_text (by decide +kernel) (by decide)
  · rw [← bytes, ← wide]
    exact value?_float_bytes (by decide +kernel)

end MySql

end NestedTx.Wire
