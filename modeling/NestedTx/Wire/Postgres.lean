import NestedTx.Wire.Basic
import NestedTx.Wire.Integer
import NestedTx.Wire.Numeric
import NestedTx.Wire.Temporal
import NestedTx.Wire.Uuid
import NestedTx.Json.Reader
import NestedTx.Value.Category

/-!
# Values of PostgreSQL

How a value of PostgreSQL is decoded, in text and in binary form. Binary numbers have their most
significant byte first; days and moments are counted from the year 2000. A reader takes values of
certain types and refuses all others; for each category of types there are readers, which are tried
in turn.
-/

namespace NestedTx.Wire.Postgres

open Text

/-- An integer of up to eight bytes, before its range is checked. -/
def integer? (format : Format) (bs : List UInt8) : Option Int :=
  match format with
  | .text => (utf8Decode? bs).bind int64?
  | .binary => if bs = [] ∨ 8 < bs.length then none else some (intOfBig bs)

/-- Reads an integer of the one type that is accepted, within its range. -/
def readInteger? (accepted : String) (min max : Int) (format : Format) (type : String)
    (bs : List UInt8) : Option Int :=
  if type = accepted then (integer? format bs).filter fun i => min ≤ i ∧ i ≤ max else none

/-- Reads an integer of 64 bits. -/
def readInt64? : (format : Format) → (type : String) → List UInt8 → Option Int :=
  readInteger? "INT8" minI64 maxI64

/-- Reads an integer of 32 bits. -/
def readInt32? : (format : Format) → (type : String) → List UInt8 → Option Int :=
  readInteger? "INT4" (-2147483648) 2147483647

/-- Reads an integer of 16 bits. -/
def readInt16? : (format : Format) → (type : String) → List UInt8 → Option Int :=
  readInteger? "INT2" (-32768) 32767

/-- Reads a floating-point number of 64 bits. -/
def readFloat64? (format : Format) (type : String) (bs : List UInt8) : Option Binary64 :=
  if type = "FLOAT8" then
    match format with
    | .text => (utf8Decode? bs).bind Binary64.read?
    | .binary => if 8 ≤ bs.length then some ⟨UInt64.ofNat (natOfBig (bs.take 8))⟩ else none
  else none

/-- Reads a floating-point number of 32 bits and widens it. -/
def readFloat32? (format : Format) (type : String) (bs : List UInt8) : Option Binary64 :=
  if type = "FLOAT4" then
    match format with
    | .text => (utf8Decode? bs).bind Binary64.readSingle?
    | .binary =>
      if 4 ≤ bs.length then some (Binary64.ofSingle (UInt32.ofNat (natOfBig (bs.take 4))))
      else none
  else none

/-- A truth value. -/
def bool? (format : Format) (bs : List UInt8) : Option Bool :=
  match format with
  | .text =>
    if bs = utf8 ['t'] then some true else if bs = utf8 ['f'] then some false else none
  | .binary => bs.head?.map (· != 0)

/-- The exact text of a decimal. -/
def decimal? (format : Format) (bs : List UInt8) : Option String :=
  match format with
  | .text => (utf8Decode? bs).map String.ofList
  | .binary => numericText? bs

/-- Bytes, which are hexadecimal digits behind `\x` in text. -/
def bytes? (format : Format) (bs : List UInt8) : Option (List UInt8) :=
  match format with
  | .text => do bytesOfHex? (← afterWord? ['\\', 'x'] (← utf8Decode? bs))
  | .binary => some bs

/-- The bytes of a UUID. -/
def uuidBytes? (format : Format) (bs : List UInt8) : Option (List UInt8) :=
  match format with
  | .text => (utf8Decode? bs).bind uuid?
  | .binary => if bs.length = 16 then some bs else none

/-- A JSON document. The binary form of JSONB begins with its version, 1. -/
def json? (format : Format) (type : String) (bs : List UInt8) : Option Json := do
  let body ←
    if type = "JSONB" ∧ format = .binary then
      match bs with
      | 1 :: rest => some rest
      | _ => none
    else if type = "JSONB" ∨ type = "JSON" then some bs
    else none
  Json.read? (← utf8Decode? body)

/-- The first day of the year 2000, from which dates are counted. -/
def epoch : Int := Date.toDays ⟨2000, 1, 1⟩

/-- Reads a moment in a time zone, as one in UTC. -/
def readZoned? (format : Format) (type : String) (bs : List UInt8) : Option Moment :=
  if type = "TIMESTAMPTZ" then
    match format with
    | .text => (utf8Decode? bs).bind Moment.readUtc?
    | .binary => (integer? .binary bs).bind (Moment.ofMicros? epoch)
  else none

/-- Reads a moment without a time zone. An offset in a text is passed over. -/
def readMoment? (format : Format) (type : String) (bs : List UInt8) : Option Moment :=
  if type = "TIMESTAMP" then
    match format with
    | .text => do
      let cs ← utf8Decode? bs
      if cs.contains '+' then (Moment.readWithOffset? cs).map (·.1) else Moment.read? cs
    | .binary => (integer? .binary bs).bind (Moment.ofMicros? epoch)
  else none

/-- Reads a day. -/
def readDate? (format : Format) (type : String) (bs : List UInt8) : Option Date :=
  if type = "DATE" then
    match format with
    | .text => (utf8Decode? bs).bind Date.read?
    | .binary => do
      let i ← integer? .binary bs
      if -2147483648 ≤ i ∧ i ≤ 2147483647 then Date.ofDays? (epoch + i) else none
  else none

/-- Reads a time of day. -/
def readTime? (format : Format) (type : String) (bs : List UInt8) : Option TimeOfDay :=
  if type = "TIME" then
    match format with
    | .text => (utf8Decode? bs).bind TimeOfDay.read?
    | .binary => do
      let i ← integer? .binary bs
      (Moment.ofMicros? epoch (i % 86400000000)).map (·.time)
  else none

/-- The types whose values are text. -/
def textTypes : List String := ["TEXT", "VARCHAR", "CHAR", "NAME", "UNKNOWN"]

/-- Reads a text. -/
def readText? (type : String) (bs : List UInt8) : Option (List Char) :=
  if textTypes.contains type then utf8Decode? bs else none

/-- The text of a date or time, by the first reader that takes it: of a moment in a time zone, of a
moment without one, of a day, of a time of day, or of a text. -/
def temporal? (format : Format) (type : String) (bs : List UInt8) : Option (List Char) :=
  ((readZoned? format type bs).map Moment.utcText).or <|
    ((readMoment? format type bs).map Moment.text).or <|
    ((readDate? format type bs).map Date.text).or <|
    ((readTime? format type bs).map TimeOfDay.text).or <|
    readText? type bs

/-- Decodes a value by the readers for the category of its type, one after the other. -/
def value? (format : Format) (type : String) (bs : List UInt8) : Option Json :=
  match Category.ofType type .postgresql with
  | .decimal => if type = "NUMERIC" then (decimal? format bs).map .str else none
  | .integer =>
    ((readInt64? format type bs).or <| (readInt32? format type bs).or <|
      readInt16? format type bs).map .int
  | .boolean => if type = "BOOL" then (bool? format bs).map .bool else none
  | .float => ((readFloat64? format type bs).or (readFloat32? format type bs)).map floatJson
  | .binary => if type = "BYTEA" then (bytes? format bs).map binaryJson else none
  | .json => json? format type bs
  | .temporal => (temporal? format type bs).map charsJson
  | .uuid => (uuidBytes? format bs).map fun bs => charsJson (uuidText bs)
  | .text => (readText? type bs).map charsJson

end NestedTx.Wire.Postgres
