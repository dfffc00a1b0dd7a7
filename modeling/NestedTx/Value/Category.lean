import NestedTx.Database.Kind

/-!
# Categories of column types

The declared type of a column is placed in one of a few categories, which say how its values are
decoded. Only the first word of a type counts.
-/

namespace NestedTx

open Text

/-- A category of column types. -/
inductive Category where
  | integer
  | float
  | decimal
  | boolean
  | binary
  | json
  | temporal
  | uuid
  | text
  deriving Repr, DecidableEq

namespace Category

/-- The name of a category. -/
def name : Category → String
  | integer => "Integer"
  | float => "Float"
  | decimal => "Decimal"
  | boolean => "Boolean"
  | binary => "Binary"
  | json => "Json"
  | temporal => "Temporal"
  | uuid => "Uuid"
  | text => "Text"

/-- The categories of types by their first word. -/
def words : List (Category × List String) :=
  [(decimal, ["decimal", "numeric"]),
    (integer, ["tinyint", "smallint", "mediumint", "int", "integer", "bigint", "int2", "int4",
      "int8", "smallserial", "serial", "bigserial"]),
    (boolean, ["bool", "boolean"]),
    (float, ["float", "float4", "float8", "double", "real"]),
    (json, ["json", "jsonb"]),
    (uuid, ["uuid"]),
    (binary, ["blob", "tinyblob", "mediumblob", "longblob", "binary", "varbinary", "bytea"]),
    (temporal, ["timestamp", "timestamptz", "datetime", "date", "time", "timetz"])]

/-- The first word of a type, in lower case, without length or precision. -/
def firstWord (typeName : String) : String :=
  String.ofList ((lowercase typeName.toList).takeWhile fun c => c != '(' && c != ' ')

/-- The category of a type. SQLite keeps decimals as floating-point numbers. -/
def ofType (typeName : String) (kind : DatabaseKind) : Category :=
  match words.find? fun (_, ws) => ws.contains (firstWord typeName) with
  | some (decimal, _) => if kind = .sqlite then float else decimal
  | some (category, _) => category
  | none => text

end Category

end NestedTx
