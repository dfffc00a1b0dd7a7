import Mathlib.Data.List.Basic
import NestedTx.Value.Rows

/-!
# Cells by the name of their column

A cell is read by its row and the name of its column, or it is looked up in the map of its row. The
names of columns may repeat, and a row may have more or fewer values than there are columns. Then
there is any number of cells of one name in a row. Reading by name finds the first of them, and the
map has kept the last.
-/

namespace NestedTx

namespace Json

variable {name : String} {fields sorted : List (String × Json)}

/-- The values of the fields of a name, in their order. -/
def valuesOf (name : String) (fields : List (String × Json)) : List Json :=
  (fields.filter (·.1 == name)).map (·.2)

lemma valuesOf_cons_self (v : Json) :
    valuesOf name ((name, v) :: fields) = v :: valuesOf name fields := by
  simp [valuesOf]

lemma valuesOf_cons_ne {other : String} (h : other ≠ name) (v : Json) :
    valuesOf name ((other, v) :: fields) = valuesOf name fields := by
  simp [valuesOf, h]

/-- Setting fields one after the other leaves the last value of each name. -/
lemma lookup?_foldl_setField :
    lookup? name (fields.foldl (fun sorted (n, v) => setField n v sorted) sorted) =
      (valuesOf name fields).getLast?.or (lookup? name sorted) := by
  induction fields generalizing sorted with
  | nil => simp [valuesOf]
  | cons f fields ih =>
    obtain ⟨n, v⟩ := f
    rw [List.foldl_cons, ih, lookup?_setField]
    by_cases h : n = name
    · subst h
      rw [valuesOf_cons_self, if_pos rfl, List.getLast?_cons]
      cases (valuesOf n fields).getLast? <;> simp
    · rw [valuesOf_cons_ne h, if_neg h]

lemma lookup?_sortFields : lookup? name (sortFields fields) = (valuesOf name fields).getLast? := by
  rw [sortFields, lookup?_foldl_setField, lookup?, Option.or_none]

end Json

namespace Rows

variable {columns : List String} {values : List Json} {column : String}

/-- The cells of a row under the columns of a name, from left to right. -/
def cells (r : Rows) (row : Nat) (column : String) : List Json :=
  Json.valuesOf column (r.columns.zip ((r.rows[row]?).getD []))

/-- The value that the map of a row has for a name. -/
def mapped? (r : Rows) (row : Nat) (column : String) : Option Json := do
  Json.lookup? column (← r.toMaps[row]?)

/-- The place of the first column of a name is that of its first value. -/
lemma getElem?_idxOf? :
    ((columns.idxOf? column).bind fun i => values[i]?) =
      (Json.valuesOf column (columns.zip values)).head? := by
  induction columns generalizing values with
  | nil => rfl
  | cons c columns ih =>
    cases values with
    | nil => cases List.idxOf? column (c :: columns) <;> rfl
    | cons v values =>
      rw [List.zip_cons_cons, List.idxOf?_cons]
      by_cases h : c = column
      · subst h
        simp [Json.valuesOf_cons_self]
      · rw [Json.valuesOf_cons_ne h, ← ih]
        cases columns.idxOf? column <;> simp [h]

/-- Reading by name finds the first cell of the name. -/
lemma get?_eq_head? (r : Rows) (row : Nat) (column : String) :
    r.get? row column = (r.cells row column).head? := by
  rw [cells, ← getElem?_idxOf?, get?]
  cases r.columns.idxOf? column with
  | none => rfl
  | some i => cases r.rows[row]? <;> simp

/-- The map of a row has the last cell of each name. -/
lemma mapped?_eq_getLast? (r : Rows) (row : Nat) (column : String) :
    r.mapped? row column = (r.cells row column).getLast? := by
  rw [cells, mapped?, toMaps, List.getElem?_map]
  cases r.rows[row]? with
  | none => simp [Json.valuesOf]
  | some values => exact Json.lookup?_sortFields

/-- A row has no more cells of a name than there are columns of it. -/
lemma length_valuesOf_zip_le :
    (Json.valuesOf column (columns.zip values)).length ≤ columns.count column := by
  induction columns generalizing values with
  | nil => simp [Json.valuesOf]
  | cons c columns ih =>
    cases values with
    | nil => simp [Json.valuesOf]
    | cons v values =>
      rw [List.zip_cons_cons]
      by_cases h : c = column
      · subst h
        rw [Json.valuesOf_cons_self, List.length_cons, List.count_cons_self]
        exact Nat.succ_le_succ ih
      · rw [Json.valuesOf_cons_ne h, List.count_cons_of_ne h]
        exact ih

/-- What is read by the name of a column is the first cell of that name in its row, and what the map
of the row has is the last. There is one map for each row. A cell is missing in both or in neither,
and they have the same value for every name that is not repeated. -/
theorem reads_first_maps_last (r : Rows) :
    r.toMaps.length = r.rows.length ∧
      ∀ row column,
        r.get? row column = (r.cells row column).head? ∧
        r.mapped? row column = (r.cells row column).getLast? ∧
        (r.get? row column = none ↔ r.mapped? row column = none) ∧
        (r.columns.count column ≤ 1 → r.get? row column = r.mapped? row column) := by
  refine ⟨List.length_map _, fun row column => ?_⟩
  rw [get?_eq_head?, mapped?_eq_getLast?]
  refine ⟨rfl, rfl, ?missing, ?once⟩
  case missing =>
    rw [List.head?_eq_none_iff, List.getLast?_eq_none_iff]
  case once =>
    intro once
    have few : (r.cells row column).length ≤ 1 := Nat.le_trans length_valuesOf_zip_le once
    match hc : r.cells row column with
    | [] => rfl
    | [v] => rfl
    | v :: w :: rest => simp [hc] at few

/-- A row of a join of two tables, both of which have an id. -/
def joined : Rows := ⟨["id", "name", "id"], [[.int 1, .str "a", .int 2]]⟩

theorem reads_first_maps_last_joined :
    joined.columns.count "name" ≤ 1 ∧ joined.get? 0 "name" = joined.mapped? 0 "name" ∧
      joined.cells 0 "id" = [.int 1, .int 2] := by
  obtain ⟨-, read⟩ := reads_first_maps_last joined
  obtain ⟨-, -, -, once⟩ := read 0 "name"
  exact ⟨by decide, once (by decide), rfl⟩

/-- The two ways to read a cell disagree on a name that is repeated. -/
theorem repeated_name_reads_apart :
    joined.get? 0 "id" = some (.int 1) ∧ joined.mapped? 0 "id" = some (.int 2) ∧
      joined.get? 0 "id" ≠ joined.mapped? 0 "id" := by
  have read : joined.get? 0 "id" = some (.int 1) := rfl
  have mapped : joined.mapped? 0 "id" = some (.int 2) := by
    rw [mapped?_eq_getLast?]
    rfl
  refine ⟨read, mapped, ?_⟩
  rw [read, mapped]
  simp

end Rows

end NestedTx
