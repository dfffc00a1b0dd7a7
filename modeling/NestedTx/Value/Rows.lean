import NestedTx.Error.Basic
import NestedTx.Json.Printer
import NestedTx.Binary64.Read
import NestedTx.Text.Integer

/-!
# Result rows

The rows that a query returns, with access to a cell by the name of its column and to the first
cell as a number or a text.
-/

namespace NestedTx

open Text

/-- Named columns and rows of values in the order of the columns. -/
structure Rows where
  columns : List String
  rows : List (List Json)
  deriving Repr, Inhabited

namespace Rows

/-- No columns and no rows. -/
def empty : Rows := ⟨[], []⟩

/-- The value under the first column of the given name. -/
def get? (r : Rows) (row : Nat) (column : String) : Option Json := do
  let i ← r.columns.idxOf? column
  (← r.rows[row]?)[i]?

/-- The first value of the first row. -/
def firstValue? (r : Rows) : Option Json := do
  (← r.rows.head?).head?

/-- Every row as an object with the columns as names. Of columns with one name the last counts. -/
def toMaps (r : Rows) : List (List (String × Json)) :=
  r.rows.map fun row => Json.sortFields (r.columns.zip row)

/-- The rows as JSON. -/
def toJson (r : Rows) : Json :=
  .object [("columns", .arr (r.columns.map .str)), ("rows", .arr (r.rows.map .arr))]

/-- The error for a value that is not of the wanted type. -/
def notScalar (wanted : String) (v : Json) : DbError :=
  .invalidInput ("Expected " ++ wanted ++ " scalar, got " ++ v.render)

/-- The first value as an integer of 64 bits. NULL and no rows give nothing. -/
def scalarInt (r : Rows) : DbResult (Option Int) :=
  match r.firstValue? with
  | none => .ok none
  | some .null => .ok none
  | some (.bool b) => .ok (some (if b then 1 else 0))
  | some (.int i) =>
    if minI64 ≤ i ∧ i ≤ maxI64 then .ok (some i) else .error (notScalar "an integer" (.int i))
  | some (.str s) =>
    match int64? s.toList with
    | some i => .ok (some i)
    | none => .error (notScalar "an integer" (.str s))
  | some v => .error (notScalar "an integer" v)

/-- The first value as a floating-point number. NULL and no rows give nothing. -/
def scalarFloat (r : Rows) : DbResult (Option Binary64) :=
  match r.firstValue? with
  | none => .ok none
  | some .null => .ok none
  | some (.int i) => .ok (some (Binary64.ofInt i))
  | some (.float x) => .ok (some x)
  | some (.str s) =>
    match Binary64.read? s.toList with
    | some x => .ok (some x)
    | none => .error (notScalar "a float" (.str s))
  | some v => .error (notScalar "a float" v)

/-- The first value as a text. Values that are no texts are written as JSON. -/
def scalarStr (r : Rows) : DbResult (Option String) :=
  match r.firstValue? with
  | none => .ok none
  | some .null => .ok none
  | some (.str s) => .ok (some s)
  | some v => .ok (some v.render)

end Rows

end NestedTx
