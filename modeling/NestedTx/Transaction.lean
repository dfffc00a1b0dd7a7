import NestedTx.Dialogue
import NestedTx.Savepoint
import NestedTx.Value.Param
import NestedTx.Value.Rows

/-!
# Transactions on a connection

A real transaction is plain statements on a connection that is kept for it: `BEGIN`, `COMMIT`,
`ROLLBACK` and those for savepoints. The connection goes back to the pool only behind a `COMMIT`
or `ROLLBACK` that succeeded. In every other case it is closed, so that nobody else is handed a
transaction in progress.
-/

namespace NestedTx

/-- A connection, by its number. -/
structure ConnectionId where
  index : Nat
  deriving Repr, DecidableEq, Inhabited

/-- What can be asked of a connection that is checked out. It ends with being released to its
pool or with being closed. -/
inductive ConnectionCall where
  | execute (c : ConnectionId) (s : Statement)
  | query (c : ConnectionId) (s : Statement)
  | release (c : ConnectionId)
  | close (c : ConnectionId)
  deriving Repr, DecidableEq

/-- The type of the reply to a call on a connection. -/
@[reducible] def ConnectionCall.Reply : ConnectionCall → Type
  | execute _ _ => DbResult ExecuteResult
  | query _ _ => DbResult Rows
  | release _ => Unit
  | close _ => Unit

/-- Dialogues with connections. -/
abbrev ConnectionDialogue : Type → Type :=
  Dialogue ConnectionCall ConnectionCall.Reply

/-- Makes one call on a connection. -/
def ConnectionCall.send (call : ConnectionCall) : ConnectionDialogue call.Reply :=
  Dialogue.request call

/-- A transaction: the connection it holds, or nothing once it is finished. -/
structure Transaction where
  connection : Option ConnectionId
  deriving Repr, DecidableEq, Inhabited

namespace Transaction

/-- Is the transaction committed or rolled back? -/
def isFinished (t : Transaction) : Bool :=
  t.connection.isNone

/-- Begins a transaction on a connection. If that fails, the state of the connection is not known,
and it is closed. -/
def begin (c : ConnectionId) : ConnectionDialogue (DbResult Transaction) := do
  match ← (ConnectionCall.execute c ⟨"BEGIN", []⟩).send with
  | .ok _ => return .ok ⟨some c⟩
  | .error e => do
    (ConnectionCall.close c).send
    return .error e

/-- Sends a statement without parameters whose result does not matter. -/
def control (t : Transaction) (sql : String) : ConnectionDialogue (DbResult Unit) :=
  match t.connection with
  | none => return .error .noActiveTransaction
  | some c => do
    match ← (ConnectionCall.execute c ⟨sql, []⟩).send with
    | .ok _ => return .ok ()
    | .error e => return .error e

/-- Sends the last statement of a transaction and releases the connection if it succeeds. -/
def finish (t : Transaction) (sql : String) : ConnectionDialogue (DbResult Unit × Transaction) :=
  match t.connection with
  | none => return (.error .noActiveTransaction, t)
  | some c => do
    match ← (ConnectionCall.execute c ⟨sql, []⟩).send with
    | .ok _ => do
      (ConnectionCall.release c).send
      return (.ok (), ⟨none⟩)
    | .error e => return (.error e, t)

/-- Commits the transaction. -/
def commit (t : Transaction) : ConnectionDialogue (DbResult Unit × Transaction) :=
  t.finish "COMMIT"

/-- Rolls the transaction back. -/
def rollback (t : Transaction) : ConnectionDialogue (DbResult Unit × Transaction) :=
  t.finish "ROLLBACK"

/-- Sends a statement about a savepoint, if the name of the savepoint is an identifier. -/
def aboutSavepoint (t : Transaction) (statement : String → String) (name : String) :
    ConnectionDialogue (DbResult Unit) :=
  match Savepoint.validate name with
  | .ok () => t.control (statement name)
  | .error e => return .error e

/-- Sets a savepoint. -/
def savepoint (t : Transaction) (name : String) : ConnectionDialogue (DbResult Unit) :=
  t.aboutSavepoint Savepoint.setStatement name

/-- Rolls back to a savepoint, which stays in place. -/
def rollbackTo (t : Transaction) (name : String) : ConnectionDialogue (DbResult Unit) :=
  t.aboutSavepoint Savepoint.rollbackStatement name

/-- Runs a statement that returns no rows. -/
def execute (t : Transaction) (s : Statement) : ConnectionDialogue (DbResult ExecuteResult) :=
  match t.connection with
  | none => return .error .noActiveTransaction
  | some c => (ConnectionCall.execute c s).send

/-- Runs a statement and collects its rows. -/
def query (t : Transaction) (s : Statement) : ConnectionDialogue (DbResult Rows) :=
  match t.connection with
  | none => return .error .noActiveTransaction
  | some c => (ConnectionCall.query c s).send

/-- Gives up a transaction: its connection is closed unless it is finished. -/
def discard (t : Transaction) : ConnectionDialogue Transaction :=
  match t.connection with
  | none => return t
  | some c => do
    (ConnectionCall.close c).send
    return ⟨none⟩

end Transaction

end NestedTx
