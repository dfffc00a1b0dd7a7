import NestedTx.Text.Integer
import NestedTx.Url.Form

/-!
# Options of a connection pool

How many connections a pool keeps and how long it waits. An option that is not given has a
default; the options of one pool must fit together.
-/

namespace NestedTx

open Text

/-- The options of a pool that are given. Times are in seconds. -/
structure PoolOptions where
  maxConnections : Option Nat
  minConnections : Option Nat
  idleTimeout : Option Nat
  acquireTimeout : Option Nat
  testBeforeAcquire : Option Bool
  deriving Repr, DecidableEq, Inhabited

namespace PoolOptions

/-- No option is given. -/
def unset : PoolOptions := ⟨none, none, none, none, none⟩

/-- The most connections a pool opens. -/
def effectiveMax (o : PoolOptions) : Nat :=
  o.maxConnections.getD 5

/-- The connections a pool keeps open, never more than it may open. -/
def effectiveMin (o : PoolOptions) : Nat :=
  min (o.minConnections.getD 1) o.effectiveMax

/-- How long a connection may be idle. -/
def effectiveIdle (o : PoolOptions) : Nat :=
  o.idleTimeout.getD 600

/-- How long to wait for a connection. -/
def effectiveAcquire (o : PoolOptions) : Nat :=
  o.acquireTimeout.getD 30

/-- Is a connection tried out before it is used? -/
def effectiveTest (o : PoolOptions) : Bool :=
  o.testBeforeAcquire.getD true

theorem effectiveMin_le_effectiveMax (o : PoolOptions) : o.effectiveMin ≤ o.effectiveMax :=
  Nat.min_le_right ..

/-- Why options do not fit together. -/
inductive Misfit where
  | noConnections
  | minAboveMax (min max : Nat)
  | noWait
  deriving Repr, DecidableEq

/-- The text for a misfit. -/
def Misfit.message : Misfit → String
  | noConnections => "max_connections must be greater than 0"
  | minAboveMax min max =>
    "min_connections (" ++ toString min ++ ") cannot exceed max_connections (" ++ toString max ++
      ")"
  | noWait => "acquire_timeout must be greater than 0"

/-- The first misfit, if there is one. -/
def misfit? (o : PoolOptions) : Option Misfit :=
  let crossed := match o.minConnections, o.maxConnections with
    | some min, some max => if max < min then some (Misfit.minAboveMax min max) else none
    | _, _ => none
  if o.maxConnections = some 0 then some .noConnections
  else crossed.or (if o.acquireTimeout = some 0 then some .noWait else none)

/-- An option as it is named in a query. -/
inductive Key where
  | maxConnections
  | minConnections
  | idleTimeout
  | acquireTimeout
  | testBeforeAcquire
  deriving Repr, DecidableEq

/-- The name of an option in a query. -/
def Key.name : Key → String
  | maxConnections => "max_connections"
  | minConnections => "min_connections"
  | idleTimeout => "idle_timeout"
  | acquireTimeout => "acquire_timeout"
  | testBeforeAcquire => "test_before_acquire"

/-- All options. -/
def Key.all : List Key :=
  [maxConnections, minConnections, idleTimeout, acquireTimeout, testBeforeAcquire]

/-- The option that a query parameter sets, named in any case. -/
def Key.ofName? (name : List Char) : Option Key :=
  all.find? fun k => k.name.toList == lowercase name

/-- The value that the parameters of a query give to an option: the last one counts. -/
def Key.value? (k : Key) (pairs : List Url.Pair) : Option (List Char) :=
  (pairs.reverse.find? fun p => Key.ofName? p.1 == some k).map (·.2)

/-- A value that an option cannot have. -/
structure BadValue where
  key : Key
  value : String
  deriving Repr, DecidableEq

/-- The text for a bad value. -/
def BadValue.message (b : BadValue) : String :=
  "Invalid value for " ++ b.key.name ++ ": '" ++ b.value ++ "'"

/-- Reads `true` or `false` in any case. -/
def bool? (cs : List Char) : Option Bool :=
  if lowercase cs = "true".toList then some true
  else if lowercase cs = "false".toList then some false
  else none

/-- Reads the value of an option if it is given. -/
def readOption {α : Type} (k : Key) (read? : List Char → Option α) (pairs : List Url.Pair) :
    Except BadValue (Option α) :=
  match k.value? pairs with
  | none => .ok none
  | some value =>
    match read? value with
    | some a => .ok (some a)
    | none => .error ⟨k, String.ofList value⟩

/-- Reads the options out of the parameters of a query. -/
def ofPairs (pairs : List Url.Pair) : Except BadValue PoolOptions := do
  let test ← readOption .testBeforeAcquire bool? pairs
  let max ← readOption .maxConnections (natural? maxU32) pairs
  let min ← readOption .minConnections (natural? maxU32) pairs
  let idle ← readOption .idleTimeout (natural? maxU64) pairs
  let acquire ← readOption .acquireTimeout (natural? maxU64) pairs
  return ⟨max, min, idle, acquire, test⟩

end PoolOptions

end NestedTx
