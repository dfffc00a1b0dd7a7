import NestedTx.Error.Driver
import NestedTx.Database.Kind
import NestedTx.Value.Param
import NestedTx.Value.Rows
import NestedTx.Text.Integer

/-!
# Outcomes of statements

What comes back for a statement that was sent: nothing at all, an error, or counts and rows. A
statement that is not answered in time is given up.
-/

namespace NestedTx

open Text

/-- What a statement that succeeded brings back. -/
structure Reply where
  affected : Nat
  insertId : Int
  rows : Rows
  deriving Repr, Inhabited

/-- What comes back for a statement. -/
inductive Outcome where
  | silence
  | failure (e : DriverError)
  | success (r : Reply)

namespace Outcome

/-- The reply to a statement, or the error that takes its place. The limit is in milliseconds,
and an error names whole seconds. -/
def reply (operation : String) (limit : Nat) : Outcome → DbResult Reply
  | silence => .error (.timeout operation (min (limit / 1000) maxU32))
  | failure e => .error e.classify
  | success r => .ok r

/-- The id of the row inserted last. PostgreSQL has none, and zero stands for none. -/
def insertId? (kind : DatabaseKind) (id : Int) : Option Int :=
  if kind = .postgresql ∨ id = 0 ∨ maxI64 < id then none else some id

/-- The result of a statement without rows. -/
def executeResult (kind : DatabaseKind) (limit : Nat) (o : Outcome) : DbResult ExecuteResult := do
  let r ← o.reply "statement execution" limit
  return ⟨r.affected, insertId? kind r.insertId⟩

/-- The rows of a query. -/
def queryResult (limit : Nat) (o : Outcome) : DbResult Rows := do
  let r ← o.reply "query execution" limit
  return r.rows

end Outcome

end NestedTx
