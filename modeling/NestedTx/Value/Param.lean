import NestedTx.Json.Printer
import NestedTx.Text.Utf8

/-!
# Statement parameters

The values that may be bound to the placeholders of a statement.
-/

namespace NestedTx

/-- A value bound to a placeholder. Integers are those of 64 bits. -/
inductive Param where
  | null
  | bool (b : Bool)
  | int (i : Int)
  | float (x : Binary64)
  | str (s : String)
  | bytes (bs : List UInt8)
  deriving Repr, DecidableEq

namespace Param

/-- The name of the type of a parameter. -/
def typeName : Param → String
  | null => "null"
  | bool _ => "bool"
  | int _ => "int"
  | float _ => "float"
  | str _ => "string"
  | bytes _ => "bytes"

/-- Is the parameter NULL? -/
def isNull : Param → Bool
  | null => true
  | _ => false

/-- The parameter as JSON; bytes are an array of numbers. -/
def toJson : Param → Json
  | null => .null
  | bool b => .bool b
  | int i => .int i
  | float x => .float x
  | str s => .str s
  | bytes bs => .arr (bs.map fun b => .int b.toNat)

end Param

/-- A statement with the values for its placeholders. -/
structure Statement where
  sql : String
  params : List Param
  deriving Repr, DecidableEq

/-- What a statement without rows reports. -/
structure ExecuteResult where
  rowsAffected : Nat
  lastInsertId : Option Int
  deriving Repr, DecidableEq

end NestedTx
