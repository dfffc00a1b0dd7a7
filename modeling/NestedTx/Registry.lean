import NestedTx.Error.Basic

/-!
# Registry

Resources by name. The names are kept in increasing order, each once, so that a name stands for
one resource and all names can be listed in order.
-/

namespace NestedTx

/-- Resources of type `ρ` by name, in increasing order of names. -/
structure Registry (ρ : Type) where
  entries : List (String × ρ)
  ordered : entries.Pairwise fun a b => a.1 < b.1

namespace Registry

variable {ρ : Type}

/-- No resource is registered. -/
def empty : Registry ρ := ⟨[], .nil⟩

/-- The resource registered under a name. -/
def get? (g : Registry ρ) (name : String) : Option ρ :=
  (g.entries.find? (·.1 == name)).map (·.2)

/-- Is the name taken? -/
def contains (g : Registry ρ) (name : String) : Bool :=
  (g.get? name).isSome

/-- The names in increasing order. -/
def names (g : Registry ρ) : List String :=
  g.entries.map (·.1)

/-- The number of resources. -/
def size (g : Registry ρ) : Nat :=
  g.entries.length

/-- Puts an entry in its place. -/
def insertEntry (name : String) (r : ρ) : List (String × ρ) → List (String × ρ)
  | [] => [(name, r)]
  | e :: rest => if name < e.1 then (name, r) :: e :: rest else e :: insertEntry name r rest

/-- The entries with one more are that one and those before. -/
theorem mem_insertEntry {name : String} {r : ρ} {l : List (String × ρ)} {e : String × ρ} :
    e ∈ insertEntry name r l ↔ e = (name, r) ∨ e ∈ l := by
  induction l with
  | nil => simp [insertEntry]
  | cons x rest ih =>
    rw [insertEntry]
    split
    · simp
    · simp only [List.mem_cons, ih]
      exact or_left_comm

/-- The order of names survives a new name. -/
theorem ordered_insertEntry {name : String} {r : ρ} {l : List (String × ρ)}
    (h : l.Pairwise fun a b => a.1 < b.1) (free : ∀ e ∈ l, e.1 ≠ name) :
    (insertEntry name r l).Pairwise fun a b => a.1 < b.1 := by
  induction l with
  | nil => simp [insertEntry]
  | cons x rest ih =>
    obtain ⟨hx, hrest⟩ := List.pairwise_cons.1 h
    rw [insertEntry]
    split
    · next before =>
      refine List.pairwise_cons.2 ⟨fun e he => ?_, h⟩
      obtain rfl | he := List.mem_cons.1 he
      · exact before
      · exact Std.lt_trans before (hx e he)
    · next notBefore =>
      refine List.pairwise_cons.2 ⟨fun e he => ?_, ih hrest fun e he => free e (by simp [he])⟩
      obtain rfl | he := mem_insertEntry.1 he
      · exact Std.lt_of_le_of_ne (String.not_lt.1 notBefore) (free x (by simp))
      · exact hx e he

/-- A name that is not taken is the name of no entry. -/
theorem ne_of_not_contains {g : Registry ρ} {name : String} (h : g.contains name = false) :
    ∀ e ∈ g.entries, e.1 ≠ name := by
  intro e he hname
  have : g.entries.find? (·.1 == name) = none := by
    simpa [contains, get?] using h
  simpa [hname] using List.find?_eq_none.1 this e he

/-- Registers a resource if the name is free, and says whether it was. -/
def claim (g : Registry ρ) (name : String) (r : ρ) : Bool × Registry ρ :=
  if h : g.contains name then (false, g)
  else
    (true, ⟨insertEntry name r g.entries,
      ordered_insertEntry g.ordered (ne_of_not_contains (by simpa using h))⟩)

/-- Registers a resource. A name that is taken keeps its resource. -/
def register (g : Registry ρ) (name : String) (r : ρ) : DbResult Unit × Registry ρ :=
  match g.claim name r with
  | (true, g) => (.ok (), g)
  | (false, g) => (.error (.nameConflict name), g)

/-- Takes a resource out of the registry. It is not closed. -/
def unregister (g : Registry ρ) (name : String) : DbResult ρ × Registry ρ :=
  match g.get? name with
  | some r => (.ok r, ⟨g.entries.filter (·.1 != name), g.ordered.filter _⟩)
  | none => (.error (.nameNotFound name), g)

/-- Looks a resource up. -/
def lookup (g : Registry ρ) (name : String) : DbResult ρ :=
  match g.get? name with
  | some r => .ok r
  | none => .error (.nameNotFound name)

/-- Takes all resources out of the registry. -/
def drain (g : Registry ρ) : List ρ × Registry ρ :=
  (g.entries.map (·.2), empty)

end Registry

end NestedTx
