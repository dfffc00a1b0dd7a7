import NestedTx.Wire.Basic
import NestedTx.Wire.Integer
import NestedTx.Wire.Temporal
import NestedTx.Json.Reader
import NestedTx.Value.Category

/-!
# Values of MySQL

How a value of MySQL is decoded, in text and in binary form. Binary numbers have their least
significant byte first; days and times are sent in fields behind a length. A reader takes values of
certain types and refuses all others; for each category of types there are readers, which are tried
in turn.
-/

namespace NestedTx.Wire.MySql

open Text

/-- Is the type one of integers? Truth values are integers of eight bits. -/
def isInteger (type : String) : Bool :=
  Category.ofType type .mysql == .integer || Category.ofType type .mysql == .boolean

/-- Is the type one of unsigned integers? -/
def isUnsigned (type : String) : Bool :=
  " UNSIGNED".toList.reverse.isPrefixOf type.toList.reverse

/-- A signed integer of up to eight bytes. -/
def signed? (format : Format) (bs : List UInt8) : Option Int :=
  match format with
  | .text => (utf8Decode? bs).bind int64?
  | .binary => if bs = [] ∨ 8 < bs.length then none else some (intOfLittle bs)

/-- An unsigned integer of up to eight bytes. -/
def unsigned? (format : Format) (bs : List UInt8) : Option Int :=
  match format with
  | .text => ((utf8Decode? bs).bind (natural? maxU64)).map Int.ofNat
  | .binary => if bs = [] ∨ 8 < bs.length then none else some (natOfLittle bs)

/-- Reads a signed integer. Unsigned ones are refused. -/
def readSigned? (format : Format) (type : String) (bs : List UInt8) : Option Int :=
  if isInteger type && !isUnsigned type then signed? format bs else none

/-- Reads an unsigned integer. Signed ones are refused. -/
def readUnsigned? (format : Format) (type : String) (bs : List UInt8) : Option Int :=
  if isInteger type && isUnsigned type then unsigned? format bs else none

/-- Reads a truth value: a small number that is not zero. -/
def readBool? (format : Format) (type : String) (bs : List UInt8) : Option Bool := do
  let i ← if isInteger type then signed? format bs else none
  if -128 ≤ i ∧ i ≤ 127 then some (i != 0) else none

/-- Reads a floating-point number of either width as one of 64 bits. -/
def readFloat64? (format : Format) (type : String) (bs : List UInt8) : Option Binary64 :=
  if Category.ofType type .mysql = .float then
    match format with
    | .text => (utf8Decode? bs).bind Binary64.read?
    | .binary =>
      if bs.length = 4 then some (Binary64.ofSingle (UInt32.ofNat (natOfLittle bs)))
      else if bs.length = 8 then some ⟨UInt64.ofNat (natOfLittle bs)⟩
      else none
  else none

/-- Reads a floating-point number of four bytes, or a text as one, and widens it. -/
def readFloat32? (format : Format) (type : String) (bs : List UInt8) : Option Binary64 :=
  if Category.ofType type .mysql = .float then
    match format with
    | .text => (utf8Decode? bs).bind Binary64.readSingle?
    | .binary =>
      if bs.length = 4 then some (Binary64.ofSingle (UInt32.ofNat (natOfLittle bs))) else none
  else none

/-- The day in four bytes: year, month and day. -/
def dateOf? : List UInt8 → Option Date
  | y0 :: y1 :: month :: day :: _ => Date.make? (natOfLittle [y0, y1]) month.toNat day.toNat
  | _ => none

/-- The time of day in three bytes and, if there are more, microseconds. -/
def timeOf? (extraHours : Nat) : List UInt8 → Option TimeOfDay
  | hour :: minute :: second :: micros =>
    if second < 60 then
      TimeOfDay.make? (extraHours + hour.toNat) minute.toNat second.toNat
        (1000 * natOfLittle micros)
    else none
  | _ => none

/-- The bytes behind a length that says how many they are. -/
def measured? : List UInt8 → Option (List UInt8)
  | [] => none
  | n :: rest => if rest.length = n.toNat then some rest else none

/-- A moment: a day and perhaps a time of day. -/
def moment? (bs : List UInt8) : Option Moment := do
  let fields ← measured? bs
  let date ← dateOf? fields
  let time ← if fields.length ≤ 4 then TimeOfDay.make? 0 0 0 0 else timeOf? 0 (fields.drop 4)
  return ⟨date, time⟩

/-- A span of time that is less than a day, as a time of day. Its sign does not count. -/
def span? (bs : List UInt8) : Option TimeOfDay := do
  match ← measured? bs with
  | [] => TimeOfDay.make? 0 0 0 0
  | _ :: d0 :: d1 :: d2 :: d3 :: time =>
    let t ← timeOf? (24 * natOfLittle [d0, d1, d2, d3]) time
    if t.nanos < 1000000000 then some t else none
  | _ => none

/-- Reads a moment. -/
def readMoment? (format : Format) (type : String) (bs : List UInt8) : Option Moment :=
  if type = "DATETIME" ∨ type = "TIMESTAMP" then
    match format with
    | .text => (utf8Decode? bs).bind Moment.read?
    | .binary => moment? bs
  else none

/-- Reads a day. -/
def readDate? (format : Format) (type : String) (bs : List UInt8) : Option Date :=
  if type = "DATE" then
    match format with
    | .text => (utf8Decode? bs).bind Date.read?
    | .binary => (measured? bs).bind dateOf?
  else none

/-- Reads a time of day. -/
def readTime? (format : Format) (type : String) (bs : List UInt8) : Option TimeOfDay :=
  if type = "TIME" then
    match format with
    | .text => (utf8Decode? bs).bind TimeOfDay.read?
    | .binary => span? bs
  else none

/-- The types in the category of text whose values do not decode. -/
def undecodedTypes : List String := ["YEAR", "BIT", "SET", "GEOMETRY", "NULL"]

/-- Does the type hold texts? -/
def isText (type : String) : Bool :=
  (Category.ofType type .mysql == .text || Category.ofType type .mysql == .uuid) &&
    !undecodedTypes.contains type

/-- Reads a text. -/
def readText? (type : String) (bs : List UInt8) : Option (List Char) :=
  if isText type then utf8Decode? bs else none

/-- Reads bytes, which texts are as well. -/
def readBytes? (type : String) (bs : List UInt8) : Option (List UInt8) :=
  if isText type || Category.ofType type .mysql == .binary then some bs else none

/-- The text of a date or time, by the first reader that takes it: of a moment in UTC, which every
moment is taken for, of a moment without a zone, of a day, of a time of day, or of a text. -/
def temporal? (format : Format) (type : String) (bs : List UInt8) : Option (List Char) :=
  ((readMoment? format type bs).map Moment.utcText).or <|
    ((readMoment? format type bs).map Moment.text).or <|
    ((readDate? format type bs).map Date.text).or <|
    ((readTime? format type bs).map TimeOfDay.text).or <|
    readText? type bs

/-- Decodes a value by the readers for the category of its type, one after the other. -/
def value? (format : Format) (type : String) (bs : List UInt8) : Option Json :=
  match Category.ofType type .mysql with
  | .decimal => (utf8Decode? bs).map charsJson
  | .integer => ((readSigned? format type bs).or (readUnsigned? format type bs)).map .int
  | .boolean => (readBool? format type bs).map .bool
  | .float => ((readFloat64? format type bs).or (readFloat32? format type bs)).map floatJson
  | .binary => (readBytes? type bs).map binaryJson
  | .json => (utf8Decode? bs).bind Json.read?
  | .temporal => (temporal? format type bs).map charsJson
  | .uuid | .text => ((readText? type bs).map charsJson).or ((readBytes? type bs).map binaryJson)

end NestedTx.Wire.MySql
