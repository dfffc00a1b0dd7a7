import Mathlib.Data.List.Forall2
import NestedTx.Service
import NestedTx.Proofs.Wire.Datum

/-!
# Queries with parameters and without

A statement without parameters is sent as text and answered in text. One with parameters is
prepared and answered in binary form. A table of values of exact types comes out the same.
-/

namespace NestedTx

open Wire

/-- A value of an exact type of a server of the given kind. -/
inductive Datum : DatabaseKind → Type where
  | postgresql (d : Postgres.Datum) : Datum .postgresql
  | mysql (d : MySql.Datum) : Datum .mysql

namespace Datum

variable {kind : DatabaseKind}

/-- The name of the type of a value. -/
def type : Datum kind → String
  | postgresql d => d.type
  | mysql d => d.type

/-- A value as it is sent. -/
def encode (format : Format) : Datum kind → List UInt8
  | postgresql d => d.encode format
  | mysql d => d.encode format

/-- The JSON value, which is NULL for a document that cannot be read. -/
def json : Datum kind → Json
  | postgresql d => d.json?.getD .null
  | mysql d => d.json

/-- Both forms of a value are decoded to the JSON value that it is. -/
lemma decode_encode (format : Format) (d : Datum kind) :
    (ScriptedServer.valueOf kind format d.type (d.encode format)).getD .null = d.json := by
  cases d with
  | postgresql d =>
    show (Postgres.value? format d.type (d.encode format)).getD .null = _
    rw [d.value?_encode]
    rfl
  | mysql d =>
    show (MySql.value? format d.type (d.encode format)).getD .null = _
    rw [d.value?_encode]
    rfl

end Datum

/-- Columns and rows of values, each of which is NULL or of the type of its column. -/
structure DataTable (kind : DatabaseKind) where
  columns : List Column
  rows : List (List (Option (Datum kind)))
  typed : ∀ row ∈ rows, List.Forall₂ (fun (c : Column) v => ∀ d ∈ v, d.type = c.type) columns row

namespace DataTable

variable {kind : DatabaseKind}

/-- A table as it is sent. -/
def wire (format : Format) (t : DataTable kind) : Table :=
  ⟨t.columns, t.rows.map fun row => row.map fun v => v.map (Datum.encode format)⟩

/-- The rows of a query: the names of the columns, unless there are no rows, and the JSON values. -/
def result (t : DataTable kind) : Rows :=
  if t.rows = [] then Rows.empty
  else
    ⟨t.columns.map (·.name), t.rows.map fun row => row.map fun v => (v.map Datum.json).getD .null⟩

/-- The values of a row, each as the JSON value that it is. -/
lemma decode_row {columns : List Column} {row : List (Option (Datum kind))} (format : Format)
    (h : List.Forall₂ (fun (c : Column) v => ∀ d ∈ v, d.type = c.type) columns row) :
    columns.zipWith (fun (c : Column) (v : Cell) =>
        ((v.bind (ScriptedServer.valueOf kind format c.type)).getD .null))
      (row.map fun v => v.map (Datum.encode format)) =
      row.map fun v => (v.map Datum.json).getD .null := by
  induction h with
  | nil => rfl
  | @cons c v columns row typed _ ih =>
    rw [List.map_cons, List.zipWith_cons_cons, List.map_cons, ih]
    congr 1
    cases v with
    | none => rfl
    | some d =>
      rw [← typed d rfl]
      exact d.decode_encode format

/-- Both forms of a table are decoded to the rows that it has. -/
lemma decode_wire (format : Format) (t : DataTable kind) :
    (t.wire format).decode (ScriptedServer.valueOf kind format) = t.result := by
  by_cases empty : t.rows = []
  · rw [Table.decode, wire, result, if_pos empty, if_pos (by rw [empty]; rfl)]
  · rw [Table.decode, wire, result, if_neg empty, if_neg (by simp [empty]), List.map_map]
    congr 1
    apply List.map_congr_left
    intro row hr
    exact decode_row format (t.typed row hr)

end DataTable

/-- The message that a statement is sent as. -/
def Statement.sent (kind : DatabaseKind) (st : Statement) : Message :=
  message (if kind = .mysql then mysqlArgument else postgresArgument) st

namespace Service

open ScriptedServer

variable {s : Service} {c : ConnectionId} {link : ScriptedLink} {listener : Listener}
  {r : ResourceId} {res : PooledResource}

/-- What comes back for a statement is what the server makes of its message. -/
lemma sendOn_scripted (kind : DatabaseKind) (st : Statement)
    (hc : s.links[c.index]? = some (.scripted link)) (hl : s.listener = some listener) :
    (s.sendOn kind c st).1 =
      outcome kind (st.sent kind) (listener.server.answer link (st.sent kind)).1 := by
  simp only [sendOn, hc, hl]
  rfl

/-- A query that its server answers with a table, in the form that the message asks for, returns
the rows of the table, and they do not depend on the form. It is text for a statement without
parameters and binary for any other. -/
theorem query_rows_of_table (t : DataTable res.kind) (st : Statement)
    (hc : s.links[c.index]? = some (.scripted link)) (hl : s.listener = some listener)
    (answered : (listener.server.answer link (st.sent res.kind)).1 =
      some (.table (t.wire (formatOf (st.sent res.kind))))) :
    formatOf (st.sent res.kind) = (if st.params = [] then .text else .binary) ∧
      (connectionReply r res (.query c st) s).1 = .ok t.result := by
  constructor
  · rw [Statement.sent, message]
    split_ifs <;> rfl
  · have back := sendOn_scripted res.kind st hc hl
    rw [answered] at back
    show (s.sendOn res.kind c st).1.queryResult res.limit = _
    rw [back, ← t.decode_wire (formatOf (st.sent res.kind))]
    rfl

/-- An integer and a decimal, NULL and NaN, asked for without parameters and with one. -/
theorem query_rows_of_table_numbers :
    ∃ (unprepared prepared : Service) (res : PooledResource), res.kind = .postgresql ∧
      (connectionReply ⟨0⟩ res (.query ⟨0⟩ ⟨"SELECT", []⟩) unprepared).1 =
        .ok ⟨["i", "d"], [[.int (-7), .str "-0.50"], [.null, .str "NaN"]]⟩ ∧
      (connectionReply ⟨0⟩ res (.query ⟨0⟩ ⟨"SELECT", [.int 1]⟩) prepared).1 =
        .ok ⟨["i", "d"], [[.int (-7), .str "-0.50"], [.null, .str "NaN"]]⟩ := by
  have small : (Decimal.number (-50) 2).Fits :=
    Decimal.fits_of_lt (by decide) (by decide) (by decide : 50 < 10 ^ 2)
  let seven : Datum .postgresql := .postgresql (.integer .int2 ⟨-7, by decide, by decide⟩)
  let half : Datum .postgresql := .postgresql (.numeric (.number (-50) 2) small)
  let nan : Datum .postgresql := .postgresql (.numeric .nan trivial)
  let t : DataTable .postgresql :=
    { columns := [⟨"i", "INT2"⟩, ⟨"d", "NUMERIC"⟩]
      rows := [[some seven, some half], [none, some nan]]
      typed := by
        intro row hr
        rcases List.mem_cons.1 hr with rfl | hr
        · exact .cons (by rintro _ ⟨⟩; rfl) (.cons (by rintro _ ⟨⟩; rfl) .nil)
        · rw [List.mem_singleton.1 hr]
          exact .cons (by rintro _ ⟨⟩) (.cons (by rintro _ ⟨⟩; rfl) .nil) }
  let server (f : Format) : ScriptedServer :=
    ⟨.postgresql, [⟨"", none, .table (t.wire f)⟩], none, []⟩
  let serving (f : Format) : Service :=
    { empty with
      links := [.scripted ⟨false, []⟩]
      listener := some ⟨[], 0, server f⟩ }
  let res : PooledResource := ⟨.postgresql, .temporary, Pool.new 1, 30000⟩
  have unprepared := @query_rows_of_table (serving .text) ⟨0⟩ ⟨false, []⟩
    ⟨[], 0, server .text⟩ ⟨0⟩ res t ⟨"SELECT", []⟩ rfl rfl rfl
  have prepared := @query_rows_of_table (serving .binary) ⟨0⟩ ⟨false, []⟩
    ⟨[], 0, server .binary⟩ ⟨0⟩ res t ⟨"SELECT", [.int 1]⟩ rfl rfl rfl
  exact ⟨serving .text, serving .binary, res, rfl, unprepared.2, prepared.2⟩

end Service

end NestedTx
