import NestedTx.Resource

/-!
# A recording resource

Resources in memory that carry nothing out. They record every call in a log, fail the calls they
are told to fail, and keep count of their open transactions. A closed resource goes on working.
-/

namespace NestedTx

/-- The calls that can be made to fail. -/
inductive RecordedCall where
  | begin
  | commit
  | rollback
  | savepoint
  | rollbackTo
  | statement
  | ping
  deriving Repr, DecidableEq

/-- A recording resource: the calls that fail, what queries and other statements give back, how
many transactions are open, whether it was closed, and its log. -/
structure RecordedResource where
  failing : List (RecordedCall × DbError)
  rows : Rows
  result : ExecuteResult
  openTransactions : Nat
  isClosed : Bool
  log : List String
  deriving Repr

/-- Recording resources with their transactions: the resource of each and whether it is
finished. -/
structure Recorder where
  resources : List RecordedResource
  transactions : List (ResourceId × Bool)
  deriving Repr

namespace RecordedResource

/-- A resource with nothing recorded. -/
def fresh : RecordedResource := ⟨[], Rows.empty, ⟨0, none⟩, 0, false, []⟩

/-- Records a call, and fails it if it is to fail. -/
def record (r : RecordedResource) (call : RecordedCall) (entry : String) :
    DbResult Unit × RecordedResource :=
  match r.failing.find? (·.1 == call) with
  | some (_, e) => (.error e, { r with log := r.log ++ ["FAILED " ++ entry] })
  | none => (.ok (), { r with log := r.log ++ [entry] })

end RecordedResource

namespace Recorder

/-- One resource with nothing recorded. -/
def fresh : Recorder := ⟨[RecordedResource.fresh], []⟩

/-- A resource by its number. -/
def resource (r : ResourceId) (s : Recorder) : RecordedResource :=
  (s.resources[r.index]?).getD RecordedResource.fresh

/-- Changes a resource. -/
def mapResource (r : ResourceId) (f : RecordedResource → RecordedResource) (s : Recorder) :
    Recorder :=
  { s with resources := s.resources.modify r.index f }

/-- Records a call on a resource. -/
def record (r : ResourceId) (call : RecordedCall) (entry : String) (s : Recorder) :
    DbResult Unit × Recorder :=
  let (result, res) := (s.resource r).record call entry
  (result, s.mapResource r fun _ => res)

/-- The entry for a statement. -/
def statementEntry (place : String) (s : Statement) : String :=
  place ++ ": " ++ s.sql ++
    (if s.params = [] then ""
      else " [" ++ String.intercalate "," (s.params.map Param.typeName) ++ "]")

/-- Marks a transaction as finished. -/
def finish (t : TransactionId) (r : ResourceId) (s : Recorder) : Recorder :=
  { s with transactions := s.transactions.set t.index (r, true) }.mapResource r fun res =>
    { res with openTransactions := res.openTransactions - 1 }

/-- Records a call on a transaction, unless it is finished. -/
def onTransaction {α : Type} (t : TransactionId) (call : RecordedCall) (entry : String)
    (next : ResourceId → Recorder → α × Recorder) : StateM Recorder (DbResult α) := fun s =>
  match s.transactions[t.index]? with
  | some (r, false) =>
    match s.record r call entry with
    | (.ok (), s) =>
      let (a, s) := next r s
      (.ok a, s)
    | (.error e, s) => (.error e, s)
  | _ => (.error .noActiveTransaction, s)

/-- Records a call on a resource and goes on if it does not fail. -/
def onResource {α : Type} (r : ResourceId) (call : RecordedCall) (entry : String)
    (next : Recorder → α × Recorder) : StateM Recorder (DbResult α) := fun s =>
  match s.record r call entry with
  | (.ok (), s) =>
    let (a, s) := next s
    (.ok a, s)
  | (.error e, s) => (.error e, s)

/-- Replies to a call. -/
def reply : (call : Call) → StateM Recorder call.Reply
  | .begin r => onResource r .begin "BEGIN" fun s =>
    let s := s.mapResource r fun res => { res with openTransactions := res.openTransactions + 1 }
    (⟨s.transactions.length⟩, { s with transactions := s.transactions ++ [(r, false)] })
  | .commit t => onTransaction t .commit "COMMIT" fun r s => ((), s.finish t r)
  | .rollback t => onTransaction t .rollback "ROLLBACK" fun r s => ((), s.finish t r)
  | .savepoint t name =>
    onTransaction t .savepoint ("SAVEPOINT " ++ name) fun _ s => ((), s)
  | .rollbackTo t name =>
    onTransaction t .rollbackTo ("ROLLBACK TO SAVEPOINT " ++ name) fun _ s => ((), s)
  | .discard t => fun s =>
    match s.transactions[t.index]? with
    | some (r, false) =>
      let s := s.mapResource r fun res => { res with log := res.log ++ ["DISCARD"] }
      ((), s.finish t r)
    | _ => ((), s)
  | .execute (.transaction t) st =>
    onTransaction t .statement (statementEntry "tx" st) fun r s => ((s.resource r).result, s)
  | .query (.transaction t) st =>
    onTransaction t .statement (statementEntry "tx" st) fun r s => ((s.resource r).rows, s)
  | .execute (.resource r) st =>
    onResource r .statement (statementEntry "resource" st) fun s => ((s.resource r).result, s)
  | .query (.resource r) st =>
    onResource r .statement (statementEntry "resource" st) fun s => ((s.resource r).rows, s)
  | .ping r => onResource r .ping "PING" fun s => ((), s)
  | .close r => fun s =>
    ((), s.mapResource r fun res => { res with isClosed := true, log := res.log ++ ["CLOSE"] })
  | .stats r => fun s =>
    let res := s.resource r
    (⟨5, res.openTransactions, 0, res.openTransactions, res.isClosed⟩, s)

end Recorder

end NestedTx
