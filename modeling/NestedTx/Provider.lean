import NestedTx.Resource
import NestedTx.Savepoint
import NestedTx.Text.Quoted
import NestedTx.Text.Ascii
import NestedTx.Wire.Integer

/-!
# Providers

A provider runs nested units of work on one resource. The outermost unit is a real transaction;
each unit inside it is a savepoint:

* entering begins the transaction, or sets the savepoint of the next level;
* committing a nested unit only leaves its level, and its savepoint stays where it is; committing
  the outermost unit commits the transaction;
* rolling back a nested unit rolls back to its savepoint; rolling back the outermost unit rolls
  back the transaction.

A step makes at most one call, and a step that fails leaves the provider as it was. Statements run
in the transaction while there is one, and on the resource otherwise.
-/

namespace NestedTx

/-- A provider for one resource. The transaction, the number of levels entered inside it and the time
at which it was begun are kept apart from one another, and each is set on its own. -/
structure Provider where
  id : String
  resource : ResourceId
  transaction : Option TransactionId
  depth : Nat
  startedAt? : Option Nat
  deriving Repr, DecidableEq

namespace Provider

/-- Where a provider is: without a transaction, in the outermost unit of one, or so many levels
deep. -/
inductive State where
  | idle
  | outermost
  | nested (depth : Nat)
  deriving Repr, DecidableEq

/-- What is known of an open transaction. -/
structure TransactionInfo where
  provider : String
  depth : Nat
  startedAt : Nat
  deriving Repr, DecidableEq

/-- The id made of a number of 128 bits: a word and the hexadecimal digits of the number. -/
def idOf (number : Nat) : String :=
  "prv_" ++ String.ofList (Text.hexOfBytes (Wire.bigOfNat 16 number))

/-- A provider without a transaction. -/
def new (id : String) (resource : ResourceId) : Provider :=
  ⟨id, resource, none, 0, none⟩

/-- Is a transaction open? -/
def inTransaction (p : Provider) : Bool :=
  p.transaction.isSome

/-- Where the provider is. -/
def state (p : Provider) : State :=
  match p.transaction, p.depth with
  | none, _ => .idle
  | some _, 0 => .outermost
  | some _, n + 1 => .nested (n + 1)

/-- What is known of the open transaction. Nothing is, if there is no time at which it was begun. -/
def transactionInfo? (p : Provider) : Option TransactionInfo := do
  let startedAt ← p.startedAt?
  p.transaction.map fun _ => ⟨p.id, p.depth, startedAt⟩

/-- The savepoint of a level. -/
def savepointName (p : Provider) (level : Nat) : String :=
  Savepoint.name p.id level

/-- Where statements run now. -/
def route (p : Provider) : Route :=
  match p.transaction with
  | none => .resource p.resource
  | some t => .transaction t

/-- The provider with a transaction that was begun at a time. -/
def begun (p : Provider) (t : TransactionId) (now : Nat) : Provider :=
  { p with transaction := some t, depth := 0, startedAt? := some now }

/-- The provider at another depth. -/
def atDepth (p : Provider) (depth : Nat) : Provider :=
  { p with depth := depth }

/-- The provider without its transaction. -/
def finished (p : Provider) : Provider :=
  { p with transaction := none, depth := 0, startedAt? := none }

/-- Enters a unit of work and gives its level. -/
def enter (p : Provider) (now : Nat) : ResourceDialogue (DbResult Nat × Provider) :=
  match p.transaction with
  | none => do
    match ← (Call.begin p.resource).send with
    | .ok t => return (.ok 0, p.begun t now)
    | .error e => return (.error (.beginFailed e), p)
  | some t => do
    let level := p.depth + 1
    let name := p.savepointName level
    match ← (Call.savepoint t name).send with
    | .ok () => return (.ok level, p.atDepth level)
    | .error e => return (.error (.savepointFailed name e), p)

/-- Leaves the innermost unit of work and keeps what was done in it. -/
def commit (p : Provider) : ResourceDialogue (DbResult Unit × Provider) :=
  match p.transaction with
  | none => return (.error .noActiveTransaction, p)
  | some t =>
    if p.depth = 0 then do
      match ← (Call.commit t).send with
      | .ok () => return (.ok (), p.finished)
      | .error e => return (.error (.commitFailed e), p)
    else return (.ok (), p.atDepth (p.depth - 1))

/-- Rolls back to the savepoint of a level and goes on at the given depth. -/
def backTo (p : Provider) (t : TransactionId) (level depth : Nat) :
    ResourceDialogue (DbResult Unit × Provider) := do
  let name := p.savepointName level
  match ← (Call.rollbackTo t name).send with
  | .ok () => return (.ok (), p.atDepth depth)
  | .error e => return (.error (.rollbackFailed (some name) e), p)

/-- Leaves the innermost unit of work and undoes what was done in it. -/
def rollback (p : Provider) : ResourceDialogue (DbResult Unit × Provider) :=
  match p.transaction with
  | none => return (.error .noActiveTransaction, p)
  | some t =>
    if p.depth = 0 then do
      match ← (Call.rollback t).send with
      | .ok () => return (.ok (), p.finished)
      | .error e => return (.error (.rollbackFailed none e), p)
    else p.backTo t p.depth (p.depth - 1)

/-- Undoes what was done since a level was entered, and stays in that level. A level that has been
left already is passed over. -/
def rollbackTo (p : Provider) (level : Nat) : ResourceDialogue (DbResult Unit × Provider) :=
  match p.transaction with
  | none => return (.error .noActiveTransaction, p)
  | some t =>
    if level = 0 then
      return (.error (.invalidInput
        "Level 0 has no savepoint; use rollback() to undo the whole transaction"), p)
    else if p.depth < level then return (.ok (), p)
    else p.backTo t level level

/-- Gives up the open transaction, if there is one. -/
def discard (p : Provider) : ResourceDialogue Provider :=
  match p.transaction with
  | none => return p
  | some t => do
    (Call.discard t).send
    return p.finished

/-- Closes the resource. An open transaction is given up first, as the pool waits for its
connection. -/
def close (p : Provider) : ResourceDialogue Provider := do
  let p ← p.discard
  (Call.close p.resource).send
  return p

/-- Runs a statement that returns no rows. -/
def execute (p : Provider) (s : Statement) : ResourceDialogue (DbResult ExecuteResult) :=
  (Call.execute p.route s).send

/-- Runs a statement and collects its rows. -/
def query (p : Provider) (s : Statement) : ResourceDialogue (DbResult Rows) :=
  (Call.query p.route s).send

/-- Tries out a connection. -/
def ping (p : Provider) : ResourceDialogue (DbResult Unit) :=
  (Call.ping p.resource).send

/-- The state of the pool in numbers. -/
def stats (p : Provider) : ResourceDialogue PoolStats :=
  (Call.stats p.resource).send

/-- The name of a state. -/
def State.name : State → String
  | idle => "idle"
  | outermost => "open"
  | nested _ => "nested"

/-- A state as JSON, with its depth if it is nested. -/
def State.toJson : State → Json
  | nested depth => .object [("state", .str "nested"), ("depth", .int depth)]
  | s => .object [("state", .str s.name)]

/-- The name of a state in a description. -/
def State.describe : State → String
  | idle => "Idle"
  | outermost => "Open"
  | nested depth => "Nested(" ++ toString depth ++ ")"

/-- A provider described for a reader, given the description of its resource. -/
def describe (p : Provider) (resource : String) : String :=
  "Provider \x7b id: " ++ String.ofList (Text.quoted p.id.toList) ++ ", resource: " ++ resource ++
    ", state: " ++ p.state.describe ++ ", .. \x7d"

end Provider

end NestedTx
