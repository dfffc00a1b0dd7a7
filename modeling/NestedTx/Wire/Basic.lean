import NestedTx.Value.Rows
import NestedTx.Text.Base64
import NestedTx.Text.Utf8

/-!
# Values on the wire

A server sends the values of a row either as text or in a binary form of its own. A column has a
name and the server's name for its type.
-/

namespace NestedTx.Wire

open Text

/-- The two forms of values. Statements without parameters are answered in text. -/
inductive Format where
  | text
  | binary
  deriving Repr, DecidableEq

/-- A column of a result. -/
structure Column where
  name : String
  type : String
  deriving Repr, DecidableEq

/-- The bytes of a value, or NULL. -/
abbrev Cell : Type := Option (List UInt8)

/-- Rows as a server sends them. -/
structure Table where
  columns : List Column
  rows : List (List Cell)
  deriving Repr, DecidableEq

/-- Bytes as a JSON text in base 64. -/
def binaryJson (bs : List UInt8) : Json :=
  .str (String.ofList (base64 bs))

/-- A floating-point number as JSON. JSON has no numbers for NaN and the infinities. -/
def floatJson (x : Binary64) : Json :=
  if x.isFinite then .float x
  else if x.isNaN then .str "NaN"
  else if x.isNegative then .str "-inf"
  else .str "inf"

/-- Characters as a JSON text. -/
def charsJson (cs : List Char) : Json :=
  .str (String.ofList cs)

/-- Decodes every cell of a table. A value that does not decode is NULL, and without rows there
are no columns either. -/
def Table.decode (value? : (type : String) → List UInt8 → Option Json) (t : Table) : Rows :=
  let cell := fun (c : Column) (v : Cell) => ((v.bind (value? c.type)).getD .null)
  if t.rows = [] then Rows.empty
  else ⟨t.columns.map (·.name), t.rows.map fun row => t.columns.zipWith cell row⟩

end NestedTx.Wire
