import NestedTx.Server.Scripted
import NestedTx.Proofs.Text.Utf8
import NestedTx.Proofs.Wire.Numeric
import NestedTx.Proofs.Wire.Uuid

/-!
# Values of exact types in both forms

The values of the types that lose nothing on the wire, how each server sends them as text and in
binary form, and what JSON value they are. Both forms are decoded to it: integers of every width,
with a sign or without, truth values, decimals, bytes, UUIDs, JSON documents and texts.
-/

namespace NestedTx.Wire

open Text

/-- The integers with a sign that fit into a number of bytes. -/
structure SignedInteger (count : Nat) where
  value : Int
  lower : -256 ^ count ≤ 2 * value
  upper : 2 * value < 256 ^ count

/-- The integers without a sign that fit into a number of bytes. -/
structure UnsignedInteger (count : Nat) where
  value : Nat
  upper : value < 256 ^ count

namespace SignedInteger

variable {count wide : Nat} (i : SignedInteger count)

/-- An integer fits into more bytes as well. -/
def widen (h : count ≤ wide) : SignedInteger wide where
  value := i.value
  lower := by
    have lower := i.lower
    have := size_le_size h
    omega
  upper := by
    have upper := i.upper
    have := size_le_size h
    omega

lemma bounds (h : count ≤ 8) : minI64 ≤ i.value ∧ i.value ≤ maxI64 := by
  have lower := (i.widen h).lower
  have upper := (i.widen h).upper
  show -9223372036854775808 ≤ (i.widen h).value ∧ (i.widen h).value ≤ 9223372036854775807
  omega

/-- The text of an integer is read back. -/
lemma int64?_text (h : count ≤ 8) : (utf8Decode? (utf8 (integerText i.value))).bind int64? =
    some i.value := by
  obtain ⟨lower, upper⟩ := i.bounds h
  rw [utf8Decode?_utf8, Option.bind_some, int64?, integer?_integerText lower upper]

/-- The bytes of an integer are read back, the most significant first. -/
lemma intOfBig?_bytes (h : 0 < count) (h8 : count ≤ 8) :
    Postgres.integer? .binary (bigOfInt count i.value) = some i.value := by
  have length := length_bigOfInt count i.value
  have fits : ¬(bigOfInt count i.value = [] ∨ 8 < (bigOfInt count i.value).length) := by
    rw [← List.length_eq_zero_iff, length]
    omega
  rw [Postgres.integer?, if_neg fits, intOfBig_bigOfInt i.lower i.upper]

/-- The bytes of an integer are read back, the least significant first. -/
lemma intOfLittle?_bytes (h : 0 < count) (h8 : count ≤ 8) :
    MySql.signed? .binary (littleOfInt count i.value) = some i.value := by
  have length := length_littleOfInt count i.value
  have fits : ¬(littleOfInt count i.value = [] ∨ 8 < (littleOfInt count i.value).length) := by
    rw [← List.length_eq_zero_iff, length]
    omega
  rw [MySql.signed?, if_neg fits, intOfLittle_littleOfInt i.lower i.upper]

end SignedInteger

namespace UnsignedInteger

variable {count wide : Nat} (n : UnsignedInteger count)

lemma lt_size (h : count ≤ wide) : n.value < 256 ^ wide :=
  Nat.lt_of_lt_of_le n.upper (Nat.pow_le_pow_right (by decide) h)

/-- The text of an integer is read back. -/
lemma unsigned?_text (h : count ≤ 8) :
    MySql.unsigned? .text (utf8 (decimal n.value)) = some (n.value : Int) := by
  have small : n.value ≤ maxU64 := Nat.le_of_lt_succ (n.lt_size h)
  rw [MySql.unsigned?, utf8Decode?_utf8, Option.bind_some, natural?_decimal small]
  rfl

/-- The bytes of an integer are read back, also from more of them than it needs. -/
lemma unsigned?_bytes (hw : count ≤ wide) (h : 0 < wide) (h8 : wide ≤ 8) :
    MySql.unsigned? .binary (littleOfNat wide n.value) = some (n.value : Int) := by
  have length := length_littleOfNat wide n.value
  have fits : ¬(littleOfNat wide n.value = [] ∨ 8 < (littleOfNat wide n.value).length) := by
    rw [← List.length_eq_zero_iff, length]
    omega
  rw [MySql.unsigned?, if_neg fits, natOfLittle_littleOfNat_of_lt (n.lt_size hw)]

end UnsignedInteger

namespace Postgres

/-- The types of integers. -/
inductive IntegerType where
  | int2
  | int4
  | int8
  deriving Repr, DecidableEq

namespace IntegerType

/-- The name of a type. -/
def name : IntegerType → String
  | int2 => "INT2"
  | int4 => "INT4"
  | int8 => "INT8"

/-- The bytes of an integer. -/
def bytes : IntegerType → Nat
  | int2 => 2
  | int4 => 4
  | int8 => 8

end IntegerType

/-- A value of an exact type. -/
inductive Datum where
  | integer (type : IntegerType) (i : SignedInteger type.bytes)
  | bool (b : Bool)
  | numeric (d : Decimal) (h : d.Fits)
  | bytea (bs : List UInt8)
  | uuid (bs : List UInt8) (h : bs.length = 16)
  | json (document : List Char)
  | jsonb (document : List Char)
  | text (type : String) (h : type ∈ textTypes) (cs : List Char)

namespace Datum

/-- The name of the type of a value. -/
def type : Datum → String
  | integer type _ => type.name
  | bool _ => "BOOL"
  | numeric _ _ => "NUMERIC"
  | bytea _ => "BYTEA"
  | uuid _ _ => "UUID"
  | json _ => "JSON"
  | jsonb _ => "JSONB"
  | text type _ _ => type

/-- A value as text. -/
def textForm : Datum → List Char
  | integer _ i => integerText i.value
  | bool b => [if b then 't' else 'f']
  | numeric d _ => d.text.toList
  | bytea bs => '\\' :: 'x' :: hexOfBytes bs
  | uuid bs _ => uuidText bs
  | json document => document
  | jsonb document => document
  | text _ _ cs => cs

/-- A value in binary form. -/
def binaryForm : Datum → List UInt8
  | integer type i => bigOfInt type.bytes i.value
  | bool b => [boolByte b]
  | numeric d _ => d.bytes
  | bytea bs => bs
  | uuid bs _ => bs
  | json document => utf8 document
  | jsonb document => 1 :: utf8 document
  | text _ _ cs => utf8 cs

/-- A value as it is sent. -/
def encode : Format → Datum → List UInt8
  | .text, d => utf8 d.textForm
  | .binary, d => d.binaryForm

/-- The JSON value, if a document can be read as one. All others are JSON values. -/
def json? : Datum → Option Json
  | integer _ i => some (.int i.value)
  | bool b => some (.bool b)
  | numeric d _ => some (.str d.text)
  | bytea bs => some (binaryJson bs)
  | uuid bs _ => some (charsJson (uuidText bs))
  | json document => Json.read? document
  | jsonb document => Json.read? document
  | text _ _ cs => some (charsJson cs)

/-- A reader of integers refuses all types but its own. -/
lemma readInteger?_of_ne {accepted type : String} {min max : Int} {format : Format}
    {bs : List UInt8} (h : type ≠ accepted) :
    readInteger? accepted min max format type bs = none :=
  if_neg h

lemma readInteger?_self {type : String} {min max i : Int} {format : Format} {bs : List UInt8}
    (read : integer? format bs = some i) (lower : min ≤ i) (upper : i ≤ max) :
    readInteger? type min max format type bs = some i := by
  rw [readInteger?, if_pos rfl, read, Option.filter_some, if_pos (decide_eq_true ⟨lower, upper⟩)]

lemma integer?_encode (format : Format) (type : IntegerType) (i : SignedInteger type.bytes) :
    integer? format ((integer type i).encode format) = some i.value := by
  have size : 0 < type.bytes ∧ type.bytes ≤ 8 := by
    cases type <;> decide
  cases format with
  | text => exact i.int64?_text size.2
  | binary => exact i.intOfBig?_bytes size.1 size.2

/-- The readers of the other integer types refuse an integer, and the one of its type reads it. -/
lemma readInteger?_encode (format : Format) (type : IntegerType) (i : SignedInteger type.bytes) :
    (readInt64? format type.name ((integer type i).encode format)).or
      ((readInt32? format type.name ((integer type i).encode format)).or
        (readInt16? format type.name ((integer type i).encode format))) = some i.value := by
  have read := integer?_encode format type i
  -- the attempts go from the widest type down, and all but the own one refuse the column
  cases type with
  | int2 =>
    have lower : -256 ^ 2 ≤ 2 * i.value := i.lower
    have upper : 2 * i.value < 256 ^ 2 := i.upper
    have long : readInt64? format "INT2" ((integer .int2 i).encode format) = none :=
      readInteger?_of_ne (by decide)
    have middle : readInt32? format "INT2" ((integer .int2 i).encode format) = none :=
      readInteger?_of_ne (by decide)
    have own : readInt16? format "INT2" ((integer .int2 i).encode format) = some i.value :=
      readInteger?_self read (by omega) (by omega)
    rw [IntegerType.name, long, middle, own, Option.none_or, Option.none_or]
  | int4 =>
    have lower : -256 ^ 4 ≤ 2 * i.value := i.lower
    have upper : 2 * i.value < 256 ^ 4 := i.upper
    have long : readInt64? format "INT4" ((integer .int4 i).encode format) = none :=
      readInteger?_of_ne (by decide)
    have own : readInt32? format "INT4" ((integer .int4 i).encode format) = some i.value :=
      readInteger?_self read (by omega) (by omega)
    rw [IntegerType.name, long, own, Option.none_or, Option.some_or]
  | int8 =>
    obtain ⟨lower, upper⟩ := i.bounds (Nat.le_refl 8)
    have own : readInt64? format "INT8" ((integer .int8 i).encode format) = some i.value :=
      readInteger?_self read lower upper
    rw [IntegerType.name, own, Option.some_or]

/-- A document behind its version, or alone, is read as it is written. -/
lemma json?_encode (format : Format) (document : List Char) :
    Postgres.json? format "JSON" ((json document).encode format) = Json.read? document ∧
      Postgres.json? format "JSONB" ((jsonb document).encode format) = Json.read? document := by
  cases format <;> simp [Postgres.json?, encode, textForm, binaryForm, utf8Decode?_utf8]

/-- The category of the type of a value. -/
def category : Datum → Category
  | integer _ _ => .integer
  | bool _ => .boolean
  | numeric _ _ => .decimal
  | bytea _ => .binary
  | uuid _ _ => .uuid
  | json _ => .json
  | jsonb _ => .json
  | text _ _ _ => .text

lemma ofType_type (d : Datum) : Category.ofType d.type .postgresql = d.category := by
  have known : ∀ c ∈ [("INT2", Category.integer), ("INT4", .integer), ("INT8", .integer),
      ("BOOL", .boolean), ("NUMERIC", .decimal), ("BYTEA", .binary), ("UUID", .uuid),
      ("JSON", .json), ("JSONB", .json)], Category.ofType c.1 .postgresql = c.2 := by
    decide +kernel
  have texts : ∀ name ∈ textTypes, Category.ofType name .postgresql = .text := by
    decide +kernel
  cases d with
  | integer width i => cases width <;> exact known (_, _) (by simp)
  | text name h cs => exact texts name h
  | _ => exact known (_, _) (by simp)

/-- Both forms of a value are decoded to the JSON value that it is. -/
lemma value?_encode (format : Format) (d : Datum) :
    value? format d.type (d.encode format) = d.json? := by
  rw [value?, d.ofType_type]
  cases d with
  | integer width i => exact congrArg (Option.map Json.int) (readInteger?_encode format width i)
  | bool b => cases format <;> cases b <;> rfl
  | numeric d h =>
    cases format with
    | text => simp [category, type, decimal?, encode, textForm, utf8Decode?_utf8, json?]
    | binary => simp [category, type, decimal?, encode, binaryForm, d.numericText?_bytes h, json?]
  | bytea bs =>
    cases format with
    | text =>
      have digits : afterWord? ['\\', 'x'] ('\\' :: 'x' :: hexOfBytes bs) =
          some (hexOfBytes bs) := rfl
      simp [category, type, bytes?, encode, textForm, utf8Decode?_utf8, digits,
        bytesOfHex?_hexOfBytes, json?]
    | binary => rfl
  | uuid bs h =>
    cases format with
    | text =>
      simp [category, uuidBytes?, encode, textForm, utf8Decode?_utf8, uuid?_uuidText h, json?]
    | binary => simp [category, uuidBytes?, encode, binaryForm, h, json?]
  | json document => exact (json?_encode format document).1
  | jsonb document => exact (json?_encode format document).2
  | text name h cs =>
    cases format <;>
      simp [category, type, encode, textForm, binaryForm, readText?, utf8Decode?_utf8, json?, h]

end Datum

end Postgres

namespace MySql

/-- The types of integers. -/
inductive IntegerType where
  | tinyint
  | smallint
  | mediumint
  | int
  | bigint
  deriving Repr, DecidableEq

namespace IntegerType

/-- The name of a type with a sign. -/
def name : IntegerType → String
  | tinyint => "TINYINT"
  | smallint => "SMALLINT"
  | mediumint => "MEDIUMINT"
  | int => "INT"
  | bigint => "BIGINT"

/-- The bytes that hold every integer of the type. -/
def bytes : IntegerType → Nat
  | tinyint => 1
  | smallint => 2
  | mediumint => 3
  | int => 4
  | bigint => 8

/-- The bytes that an integer is sent in: those of 24 bits are sent as ones of 32. -/
def sentBytes : IntegerType → Nat
  | mediumint => 4
  | type => type.bytes

lemma bytes_le_sentBytes (type : IntegerType) : type.bytes ≤ type.sentBytes := by
  cases type <;> decide

lemma sentBytes_pos (type : IntegerType) : 0 < type.sentBytes := by
  cases type <;> decide

lemma sentBytes_le_eight (type : IntegerType) : type.sentBytes ≤ 8 := by
  cases type <;> decide

lemma bytes_le_eight (type : IntegerType) : type.bytes ≤ 8 :=
  Nat.le_trans type.bytes_le_sentBytes type.sentBytes_le_eight

lemma ofType_name (type : IntegerType) : Category.ofType type.name .mysql = .integer := by
  cases type <;> decide +kernel

lemma isUnsigned_name (type : IntegerType) : isUnsigned type.name = false := by
  cases type <;> decide +kernel

lemma ofType_unsigned (type : IntegerType) :
    Category.ofType (type.name ++ " UNSIGNED") .mysql = .integer := by
  cases type <;> decide +kernel

lemma isUnsigned_unsigned (type : IntegerType) : isUnsigned (type.name ++ " UNSIGNED") = true := by
  cases type <;> decide +kernel

end IntegerType

/-- A value of an exact type. A truth value is an integer of eight bits. -/
inductive Datum where
  | signed (type : IntegerType) (i : SignedInteger type.bytes)
  | unsigned (type : IntegerType) (n : UnsignedInteger type.bytes)
  | boolean (i : SignedInteger 1)

namespace Datum

/-- The name of the type of a value. -/
def type : Datum → String
  | signed type _ => type.name
  | unsigned type _ => type.name ++ " UNSIGNED"
  | boolean _ => "BOOLEAN"

/-- A value as text. -/
def textForm : Datum → List Char
  | signed _ i => integerText i.value
  | unsigned _ n => decimal n.value
  | boolean i => integerText i.value

/-- A value in binary form. -/
def binaryForm : Datum → List UInt8
  | signed type i => littleOfInt type.sentBytes i.value
  | unsigned type n => littleOfNat type.sentBytes n.value
  | boolean i => littleOfInt 1 i.value

/-- A value as it is sent. -/
def encode : Format → Datum → List UInt8
  | .text, d => utf8 d.textForm
  | .binary, d => d.binaryForm

/-- The JSON value. -/
def json : Datum → Json
  | signed _ i => .int i.value
  | unsigned _ n => .int n.value
  | boolean i => .bool (i.value != 0)

/-- A signed integer is read by the first of the two readers. -/
lemma value?_of_signed {format : Format} {type : String} {bs : List UInt8} {i : Int}
    (category : Category.ofType type .mysql = .integer) (sign : isUnsigned type = false)
    (read : signed? format bs = some i) : value? format type bs = some (.int i) := by
  have taken : readSigned? format type bs = some i := by
    simp [readSigned?, isInteger, category, sign, read]
  rw [value?, category]
  simp only [taken, Option.some_or, Option.map_some]

/-- An unsigned integer is refused by the first of the two readers and read by the second. -/
lemma value?_of_unsigned {format : Format} {type : String} {bs : List UInt8} {i : Int}
    (category : Category.ofType type .mysql = .integer) (sign : isUnsigned type = true)
    (read : unsigned? format bs = some i) : value? format type bs = some (.int i) := by
  have refused : readSigned? format type bs = none := by
    simp [readSigned?, sign]
  have taken : readUnsigned? format type bs = some i := by
    simp [readUnsigned?, isInteger, category, sign, read]
  rw [value?, category]
  simp only [refused, taken, Option.none_or, Option.map_some]

/-- Both forms of a value are decoded to the JSON value that it is. -/
lemma value?_encode (format : Format) (d : Datum) :
    value? format d.type (d.encode format) = some d.json := by
  cases d with
  | signed width i =>
    apply value?_of_signed
    · exact width.ofType_name
    · exact width.isUnsigned_name
    · cases format with
      | text => exact i.int64?_text width.bytes_le_eight
      | binary =>
        exact (i.widen width.bytes_le_sentBytes).intOfLittle?_bytes width.sentBytes_pos
          width.sentBytes_le_eight
  | unsigned width n =>
    apply value?_of_unsigned
    · exact width.ofType_unsigned
    · exact width.isUnsigned_unsigned
    · cases format with
      | text => exact n.unsigned?_text width.bytes_le_eight
      | binary =>
        exact n.unsigned?_bytes width.bytes_le_sentBytes width.sentBytes_pos
          width.sentBytes_le_eight
  | boolean i =>
    have category : Category.ofType "BOOLEAN" .mysql = .boolean := by decide +kernel
    have read : signed? format ((boolean i).encode format) = some i.value := by
      cases format with
      | text => exact i.int64?_text (by decide)
      | binary => exact i.intOfLittle?_bytes (by decide) (by decide)
    have inside : -128 ≤ i.value ∧ i.value ≤ 127 := by
      have lower : -256 ^ 1 ≤ 2 * i.value := i.lower
      have upper : 2 * i.value < 256 ^ 1 := i.upper
      omega
    have taken : readBool? format "BOOLEAN" ((boolean i).encode format) = some (i.value != 0) := by
      simp [readBool?, isInteger, category, read, inside]
    show value? format "BOOLEAN" _ = _
    rw [value?, category]
    simp only [taken, Option.map_some]
    rfl

end Datum

end MySql

end NestedTx.Wire
