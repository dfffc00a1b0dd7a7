import NestedTx.Server.Snapshot
import NestedTx.Server.Sql
import NestedTx.Server.Outcome

/-!
# An embedded store

A database in a file with at most one table, that of items. Each connection is a session of its
own; savepoints of one name lie on top of each other.
-/

namespace NestedTx

open Sql

/-- Items as id and amount, in increasing order of ids. -/
abbrev Items : Type := List (Int × Int)

/-- The data of a database; a new one has no table. -/
abbrev StoreData : Type := Option Items

/-- A connection to a store: its session, the id of the row it inserted last, and the number of
rows its last change met. -/
structure StoreLink where
  session : Session StoreData
  lastId : Int
  changes : Nat
  deriving Repr

namespace StoreLink

/-- A connection that was just opened. -/
def fresh : StoreLink := ⟨.autocommit, 0, 0⟩

end StoreLink

namespace Items

/-- Puts a new item in its place. -/
def insert (id amount : Int) : Items → Items
  | [] => [(id, amount)]
  | e :: rest => if id < e.1 then (id, amount) :: e :: rest else e :: insert id amount rest

end Items

/-- The rows of stored values, each read by its storage class. Without rows there are no columns. -/
def Rows.stored (columns : List String) (rows : List (List Value)) : Rows :=
  if rows = [] then Rows.empty else ⟨columns, rows.map fun row => row.map Value.toJson⟩

/-- What a query selects: the names of its columns, and its rows as they are stored. -/
def Sql.Command.selected? (items : Items) : Command → Option (List String × List (List Value))
  | .amountOf (.integer id) =>
    some (["amount"], (items.find? (·.1 == id)).toList.map fun e => [.integer e.2])
  | .count => some (["COUNT(*)"], [[.integer items.length]])
  | .all => some (["id", "amount"], items.map fun e => [.integer e.1, .integer e.2])
  | .constants columns n =>
    some (columns.map (·.name), if n = 0 ∨ columns = [] then [] else [columns.map (·.value)])
  | _ => none

/-- What a statement on the data does to it: rows or an error, the number of rows it changed if it
is a change, and the id of a row it inserted. -/
structure Effect where
  result : Except DriverError Rows
  changes : Option Nat
  lastId : Option Int

/-- Carries out a statement that is not transaction control. -/
def Sql.Command.apply (c : Command) (data : StoreData) : Effect × StoreData :=
  let items := data.getD []
  let changed := fun (n : Nat) (items : Items) =>
    ((⟨.ok Rows.empty, some n, none⟩, some items) : Effect × StoreData)
  match c.selected? items with
  | some (columns, rows) => (⟨.ok (Rows.stored columns rows), none, none⟩, data)
  | none =>
    match c with
    | .insert (.integer id) (.integer amount) =>
      if items.any (·.1 == id) then
        (⟨.error (.database "UNIQUE constraint failed: items.id" (some "1555")
          "(code: 1555) UNIQUE constraint failed: items.id"), none, none⟩, data)
      else (⟨.ok Rows.empty, some 1, some id⟩, some (items.insert id amount))
    | .update (.integer id) (.integer amount) =>
      changed (items.filter (·.1 == id)).length
        (items.map fun e => if e.1 == id then (id, amount) else e)
    | .delete (.integer id) =>
      changed (items.filter (·.1 == id)).length (items.filter (·.1 != id))
    | _ => (⟨.error (.database "datatype mismatch" (some "20") "(code: 20) datatype mismatch"),
        none, none⟩, data)

namespace StoreLink

/-- The outcome of a statement with the given rows. -/
def success (l : StoreLink) (rows : Rows) : Outcome :=
  .success ⟨l.changes, l.lastId, rows⟩

/-- Carries out transaction control; `none` stands for a statement that is none. -/
def control? (l : StoreLink) (data : StoreData) : Command → Option (Outcome × StoreLink × StoreData)
  | .begin =>
    match l.session.begin? with
    | some s => some (l.success Rows.empty, { l with session := s }, data)
    | none =>
      some (.failure (sqlError 1 "cannot start a transaction within a transaction"), l, data)
  | .commit =>
    match l.session.commit? data with
    | some published => some (l.success Rows.empty, { l with session := .autocommit }, published)
    | none => some (.failure (sqlError 1 "cannot commit - no transaction is active"), l, data)
  | .rollback =>
    if l.session.inTransaction then
      some (l.success Rows.empty, { l with session := .autocommit }, data)
    else some (.failure (sqlError 1 "cannot rollback - no transaction is active"), l, data)
  | .savepoint name =>
    some (l.success Rows.empty, { l with session := l.session.savepoint .shadow name }, data)
  | .rollbackTo name =>
    match l.session.rollbackTo? name with
    | some s => some (l.success Rows.empty, { l with session := s }, data)
    | none => some (.failure (sqlError 1 ("no such savepoint: " ++ name)), l, data)
  | _ => none

/-- Answers a statement on a connection, given the durable data. -/
def answer (l : StoreLink) (data : StoreData) (s : Statement) :
    Outcome × StoreLink × StoreData :=
  match Sql.command (l.session.view data).isSome s with
  | .error e => (.failure e, l, data)
  | .ok c =>
    match l.control? data c with
    | some result => result
    | none =>
      let (effect, data, session) := l.session.run c.apply data
      let l := { l with
        session := session
        lastId := effect.lastId.getD l.lastId
        changes := effect.changes.getD l.changes }
      match effect.result with
      | .ok rows => (l.success rows, l, data)
      | .error e => (.failure e, l, data)

end StoreLink

end NestedTx
