import NestedTx.Binary64.Basic

/-!
# JSON values

Numbers are integers or floating-point numbers. The fields of an object are kept in increasing
order of their names, each name once.
-/

namespace NestedTx

/-- A JSON value. -/
inductive Json where
  | null
  | bool (b : Bool)
  | int (i : Int)
  | float (x : Binary64)
  | str (s : String)
  | arr (items : List Json)
  | obj (fields : List (String × Json))
  deriving Repr, Inhabited

namespace Json

/-- Sets the field `name`, in its place in the order of names. A field of that name is replaced. -/
def setField (name : String) (value : Json) : List (String × Json) → List (String × Json)
  | [] => [(name, value)]
  | (n, v) :: rest =>
    if name < n then (name, value) :: (n, v) :: rest
    else if name = n then (name, value) :: rest
    else (n, v) :: setField name value rest

/-- The fields in order of names. Of several with one name the last counts. -/
def sortFields (fields : List (String × Json)) : List (String × Json) :=
  fields.foldl (fun sorted (n, v) => setField n v sorted) []

/-- The object with the given fields. -/
def object (fields : List (String × Json)) : Json :=
  .obj (sortFields fields)

/-- The value of a field in a list of fields. -/
def lookup? (name : String) : List (String × Json) → Option Json
  | [] => none
  | (n, v) :: rest => if n = name then some v else lookup? name rest

/-- The value of a field of an object. -/
def field? (name : String) : Json → Option Json
  | .obj fields => lookup? name fields
  | _ => none

/-- After a field is set, it has the new value and all others are as before. -/
theorem lookup?_setField (name other : String) (value : Json) (fields : List (String × Json)) :
    lookup? other (setField name value fields) =
      if name = other then some value else lookup? other fields := by
  induction fields with
  | nil => rfl
  | cons f rest ih =>
    obtain ⟨n, v⟩ := f
    unfold setField
    split
    · rfl
    · split
      · rename_i _ h
        subst h
        by_cases h : name = other <;> simp [lookup?, h]
      · rename_i _ h
        by_cases hn : n = other
        · subst hn
          simp [lookup?, h]
        · simp only [lookup?, if_neg hn]
          exact ih

end Json

end NestedTx
