import NestedTx.Dialogue
import NestedTx.Error.Basic
import NestedTx.Value.Param
import NestedTx.Value.Rows

/-!
# Resources and transactions

A resource is a pool of connections to one database. It can start real transactions, each on a
connection of its own. Both run statements. What can be asked of them is listed as calls, each
with the type of its reply; how a call is carried out is left open here.
-/

namespace NestedTx

/-- A resource, by its number. -/
structure ResourceId where
  index : Nat
  deriving Repr, DecidableEq, Inhabited

/-- A real transaction, by its number. -/
structure TransactionId where
  index : Nat
  deriving Repr, DecidableEq, Inhabited

/-- Where a statement runs. -/
inductive Route where
  | resource (r : ResourceId)
  | transaction (t : TransactionId)
  deriving Repr, DecidableEq

/-- Does the statement run in a transaction? -/
def Route.isTransaction : Route → Bool
  | resource _ => false
  | transaction _ => true

/-- The state of a pool in numbers. -/
structure PoolStats where
  maxConnections : Nat
  openConnections : Nat
  idle : Nat
  inUse : Nat
  closed : Bool
  deriving Repr, DecidableEq

/-- What can be asked of a resource and of its transactions. Discarding a transaction ends it
without a statement, by giving up its connection. -/
inductive Call where
  | begin (r : ResourceId)
  | commit (t : TransactionId)
  | rollback (t : TransactionId)
  | savepoint (t : TransactionId) (name : String)
  | rollbackTo (t : TransactionId) (name : String)
  | discard (t : TransactionId)
  | execute (route : Route) (s : Statement)
  | query (route : Route) (s : Statement)
  | ping (r : ResourceId)
  | close (r : ResourceId)
  | stats (r : ResourceId)
  deriving Repr, DecidableEq

/-- The type of the reply to a call. -/
@[reducible] def Call.Reply : Call → Type
  | begin _ => DbResult TransactionId
  | commit _ => DbResult Unit
  | rollback _ => DbResult Unit
  | savepoint _ _ => DbResult Unit
  | rollbackTo _ _ => DbResult Unit
  | discard _ => Unit
  | execute _ _ => DbResult ExecuteResult
  | query _ _ => DbResult Rows
  | ping _ => DbResult Unit
  | close _ => Unit
  | stats _ => PoolStats

/-- Dialogues with resources. -/
abbrev ResourceDialogue : Type → Type :=
  Dialogue Call Call.Reply

/-- Makes one call. -/
def Call.send (call : Call) : ResourceDialogue call.Reply :=
  Dialogue.request call

end NestedTx
