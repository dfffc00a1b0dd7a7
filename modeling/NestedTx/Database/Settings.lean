import NestedTx.Database.Connection
import NestedTx.Json.Reader

/-!
# Settings as JSON

Connection settings and pool options are read from an object, in which unknown fields are passed
over and no known field may stand twice, or from an array of the fields in their order. The
connection string is never written.
-/

namespace NestedTx

open Json

/-- The documents of the known fields of a record. -/
structure Record where
  isArray : Bool
  values : List (Option Document)
  deriving Repr

namespace Record

/-- Puts a field in its place; `none` if it stands there already. -/
def place? (names : List String) (name : String) (d : Document) (values : List (Option Document)) :
    Option (List (Option Document)) :=
  match names, values with
  | n :: names, v :: values =>
    if n = name then (if v.isSome then none else some (some d :: values))
    else (place? names name d values).map (v :: ·)
  | _, _ => some values

/-- The known fields of an object or an array. -/
def ofDocument? (names : List String) : Document → Option Record
  | .obj fields => do
    let values ← fields.foldlM
      (fun values (ps, d) => do place? names (String.ofList (← piecesText? ps)) d values)
      (names.map fun _ => none)
    return ⟨false, values⟩
  | .arr items =>
    if names.length < items.length then none
    else some ⟨true, items.map some ++ List.replicate (names.length - items.length) none⟩
  | _ => none

end Record

/-- Reads a text. -/
def textOf? : Document → Option String
  | .str ps => (piecesText? ps).map String.ofList
  | _ => none

/-- Reads an integer of at most `max`. -/
def naturalOf? (max : Nat) : Document → Option Nat
  | .number n =>
    match n.value? with
    | some (.int i) => if 0 ≤ i ∧ i.toNat ≤ max then some i.toNat else none
    | _ => none
  | _ => none

/-- Reads a truth value. -/
def boolOf? : Document → Option Bool
  | .bool b => some b
  | _ => none

/-- Reads something that may be missing or `null`. -/
def optionalOf? {α : Type} (read? : Document → Option α) : Option Document → Option (Option α)
  | none => some none
  | some .null => some none
  | some d => (read? d).map some

/-- Reads a kind of database: its name, or an object with its name and `null`. -/
def kindOf? : Document → Option DatabaseKind
  | .str ps => do DatabaseKind.ofName? (String.ofList (← piecesText? ps))
  | .obj [(ps, .null)] => do DatabaseKind.ofName? (String.ofList (← piecesText? ps))
  | _ => none

namespace PoolOptions

/-- The names of the fields in their order. -/
def fieldNames : List String :=
  ["max_connections", "min_connections", "idle_timeout_secs", "acquire_timeout_secs",
    "test_before_acquire"]

/-- Reads pool options. An array must hold all fields. -/
def ofDocument? (d : Document) : Option PoolOptions := do
  let r ← Record.ofDocument? fieldNames d
  match r.values with
  | [max, min, idle, acquire, test] =>
    if r.isArray ∧ test.isNone then none
    else
      return ⟨← optionalOf? (naturalOf? Text.maxU32) max,
        ← optionalOf? (naturalOf? Text.maxU32) min,
        ← optionalOf? (naturalOf? Text.maxU64) idle, ← optionalOf? (naturalOf? Text.maxU64) acquire,
        ← optionalOf? boolOf? test⟩
  | _ => none

/-- Reads pool options from a text. -/
def ofJson? (s : String) : Option PoolOptions := do
  ofDocument? (← Document.read? s.toList)

/-- The options as JSON. -/
def toJson (o : PoolOptions) : Json :=
  let natural := fun n : Option Nat => (n.map fun n => Json.int n).getD .null
  .object [("max_connections", natural o.maxConnections),
    ("min_connections", natural o.minConnections), ("idle_timeout_secs", natural o.idleTimeout),
    ("acquire_timeout_secs", natural o.acquireTimeout),
    ("test_before_acquire", (o.testBeforeAcquire.map Json.bool).getD .null)]

end PoolOptions

namespace ConnectionConfig

/-- The names of the fields in their order. -/
def fieldNames : List String :=
  ["id", "db_type", "connection_string", "pool_options", "query_timeout_secs"]

/-- Reads connection settings as they stand. Pool options and limit may be missing. -/
def ofDocument? (d : Document) : Option ConnectionConfig := do
  let r ← Record.ofDocument? fieldNames d
  match r.values with
  | [some id, some kind, some connectionString, pool, timeout] =>
    let pool ← match pool with
      | none => some PoolOptions.unset
      | some d => PoolOptions.ofDocument? d
    return ⟨← textOf? id, ← kindOf? kind, ← textOf? connectionString, pool,
      ← optionalOf? (naturalOf? Text.maxU64) timeout⟩
  | _ => none

/-- Reads connection settings from a text. -/
def ofJson? (s : String) : Option ConnectionConfig := do
  ofDocument? (← Document.read? s.toList)

/-- The settings as JSON, without the connection string. -/
def toJson (c : ConnectionConfig) : Json :=
  .object [("id", .str c.id), ("db_type", .str c.kind.name), ("pool_options", c.pool.toJson),
    ("query_timeout_secs", (c.queryTimeout.map fun n => Json.int n).getD .null)]

end ConnectionConfig

end NestedTx
