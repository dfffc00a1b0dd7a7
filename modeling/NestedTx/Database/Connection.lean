import NestedTx.Database.Kind
import NestedTx.Database.PoolOptions
import NestedTx.Text.Alphanumeric

/-!
# Connection settings

What is needed to connect to a database and to register it: an id, a connection string, the
options of its pool and a limit for statements. A connection string may hold a password, which is
masked before it is shown.
-/

namespace NestedTx

open Text

/-- The settings of a connection. -/
structure ConnectionConfig where
  id : String
  kind : DatabaseKind
  connectionString : String
  pool : PoolOptions
  queryTimeout : Option Nat
  deriving Repr, DecidableEq

namespace ConnectionConfig

/-- Why settings are refused. -/
inductive Refusal where
  | emptyId
  | invalidId (id : String)
  | unknownKind (connectionString : String)
  deriving Repr, DecidableEq

/-- The text for a refusal. -/
def Refusal.message : Refusal → String
  | emptyId => "Connection ID cannot be empty"
  | invalidId id => "Connection ID contains invalid characters: " ++ id
  | unknownKind s => "Unknown database type in connection string: " ++ s

/-- May the character stand in an id? -/
def inId (c : Char) : Bool :=
  isAlphanumeric c || c == '-' || c == '_'

/-- Settings without a limit for statements. The id is checked first. -/
def make (id connectionString : String) (pool : PoolOptions) : Except Refusal ConnectionConfig :=
  if id.isEmpty then .error .emptyId
  else if !id.toList.all inId then .error (.invalidId id)
  else
    match DatabaseKind.ofConnectionString? connectionString with
    | some kind => .ok ⟨id, kind, connectionString, pool, none⟩
    | none => .error (.unknownKind connectionString)

/-- The settings with a limit for statements in seconds. -/
def withQueryTimeout (c : ConnectionConfig) (seconds : Nat) : ConnectionConfig :=
  { c with queryTimeout := some seconds }

/-- The limit for statements in seconds. -/
def effectiveQueryTimeout (c : ConnectionConfig) : Nat :=
  c.queryTimeout.getD 30

/-- The number of characters up to the end of the first `://`. -/
def afterScheme? : List Char → Option Nat
  | ':' :: '/' :: '/' :: _ => some 3
  | _ :: rest => (afterScheme? rest).map (· + 1)
  | [] => none

/-- A text whose password is replaced by stars. The password stands between the first `@` and the
first `:` after the scheme. -/
def maskPassword (cs : List Char) : List Char :=
  if !cs.contains '@' then cs
  else
    let start := (afterScheme? cs).getD 0
    let userinfo := cs.takeWhile (· != '@')
    let host := cs.dropWhile (· != '@')
    if userinfo.length < start then cs
    else
      match splitFirst? ':' (userinfo.drop start) with
      | none => cs
      | some (user, _) => cs.take start ++ user ++ ':' :: "****".toList ++ host

/-- The connection string as it may be shown. -/
def masked (c : ConnectionConfig) : String :=
  String.ofList (maskPassword c.connectionString.toList)

end ConnectionConfig

end NestedTx
