import Mathlib.Tactic.Common
import NestedTx.Registry

/-!
# Look-ups in a registry

What is registered under a name after each change of a registry. A change touches one name, or it
empties the registry, and no name ever changes hands.
-/

namespace NestedTx.Registry

variable {ρ : Type} {g g' : Registry ρ} {name other : String} {r r' : ρ}

lemma contains_iff : g.contains name = true ↔ ∃ r, g.get? name = some r :=
  Option.isSome_iff_exists

lemma not_contains_iff : g.contains name = false ↔ g.get? name = none :=
  Option.isSome_eq_false_iff.trans Option.isNone_iff_eq_none

lemma find?_eq_some_iff {l : List (String × ρ)} (ordered : l.Pairwise fun a b => a.1 < b.1) :
    (l.find? (·.1 == name)).map (·.2) = some r ↔ (name, r) ∈ l := by
  induction ordered with
  | nil => simp
  | @cons e rest before _ ih =>
    by_cases same : e.1 = name
    · have notLater : (name, r) ∉ rest := fun h => Std.lt_irrefl (same ▸ before _ h)
      rw [List.find?_cons_of_pos (by simpa using same), List.mem_cons, or_iff_left notLater,
        Prod.ext_iff]
      simp [same, eq_comm]
    · have notFirst : (name, r) ≠ e := fun h => same (h ▸ rfl)
      rw [List.find?_cons_of_neg (by simpa using same), ih, List.mem_cons, or_iff_right notFirst]

lemma get?_eq_some_iff : g.get? name = some r ↔ (name, r) ∈ g.entries :=
  find?_eq_some_iff g.ordered

lemma find?_insertEntry {l : List (String × ρ)} (free : ∀ e ∈ l, e.1 ≠ name) :
    (insertEntry name r l).find? (·.1 == other)
      = if other = name then some (name, r) else l.find? (·.1 == other) := by
  induction l with
  | nil =>
    by_cases h : other = name
    · simp [insertEntry, h]
    · simp [insertEntry, h, Ne.symm h]
  | cons e rest ih =>
    have hrest := ih fun e he => free e (List.mem_cons_of_mem _ he)
    have he := free e List.mem_cons_self
    rw [insertEntry]
    by_cases h : other = name
    · subst h
      split
      · simp
      · rw [List.find?_cons_of_neg (by simpa using he), hrest, if_pos rfl, if_pos rfl]
    · rw [if_neg h]
      split
      · rw [List.find?_cons_of_neg (by simpa using Ne.symm h)]
      · rw [List.find?_cons, List.find?_cons, hrest, if_neg h]

/-- A claim of a name that is taken changes nothing. -/
lemma claim_of_contains (h : g.contains name = true) (r : ρ) : g.claim name r = (false, g) := by
  rw [claim, dif_pos h]

lemma claim_of_free (h : g.contains name = false) (r : ρ) :
    (g.claim name r).1 = true ∧
      ∀ other, (g.claim name r).2.get? other
        = if other = name then some r else g.get? other := by
  rw [claim, dif_neg (by simp [h])]
  refine ⟨rfl, ?_⟩
  intro other
  rw [get?, find?_insertEntry (ne_of_not_contains h)]
  split <;> rfl

/-- A claim adds at most the claimed name. -/
lemma get?_claim_iff :
    (g.claim name r).2.get? other = some r' ↔
      g.get? other = some r' ∨ g.contains name = false ∧ other = name ∧ r' = r := by
  cases h : g.contains name with
  | true => simp [claim_of_contains h]
  | false =>
    rw [(claim_of_free h r).2]
    by_cases same : other = name
    · subst same
      simp [not_contains_iff.1 h, eq_comm]
    · simp [same]

lemma contains_claim (g : Registry ρ) (name other : String) (r : ρ) :
    (g.claim name r).2.contains other = (g.contains other || other == name) := by
  rw [Bool.eq_iff_iff, Bool.or_eq_true, contains_iff, contains_iff, beq_iff_eq]
  constructor
  · rintro ⟨r', h⟩
    exact (get?_claim_iff.1 h).imp (fun h => ⟨r', h⟩) fun h => h.2.1
  · rintro (⟨r', h⟩ | rfl)
    · exact ⟨r', get?_claim_iff.2 (.inl h)⟩
    · cases h : g.contains other with
      | true => exact (contains_iff.1 h).imp fun r' h => get?_claim_iff.2 (.inl h)
      | false => exact ⟨r, get?_claim_iff.2 (.inr ⟨h, rfl, rfl⟩)⟩

lemma register_eq (g : Registry ρ) (name : String) (r : ρ) :
    g.register name r
      = (if g.contains name then .error (.nameConflict name) else .ok (), (g.claim name r).2) := by
  rw [register]
  cases h : g.contains name with
  | true =>
    rw [claim_of_contains h]
    rfl
  | false =>
    have granted := (claim_of_free h r).1
    split
    next g' hg =>
      rw [hg]
      rfl
    next g' hg =>
      rw [hg] at granted
      cases granted

lemma get?_unregister (g : Registry ρ) (name other : String) :
    (g.unregister name).2.get? other = if other = name then none else g.get? other := by
  rw [unregister]
  cases h : g.get? name with
  | none =>
    by_cases same : other = name
    · rw [if_pos same, same, h]
    · rw [if_neg same]
  | some r =>
    by_cases same : other = name
    · simp [same, get?]
    · rw [if_neg same, get?, get?, List.find?_filter]
      congr 2
      funext e
      by_cases he : e.1 = other <;> simp [he, same]

lemma lookup_eq_ok_iff : g.lookup name = .ok r ↔ g.get? name = some r := by
  rw [lookup]
  cases g.get? name <;> simp

lemma lookup_of_not_contains (free : g.contains name = false) :
    g.lookup name = .error (.nameNotFound name) := by
  rw [lookup, not_contains_iff.1 free]

/-- The entry of a claim that is granted is added to those before. -/
lemma entries_claim (free : g.contains name = false) (r : ρ) :
    (g.claim name r).2.entries = insertEntry name r g.entries := by
  rw [claim, dif_neg (by simp [free])]

lemma perm_insertEntry (name : String) (r : ρ) (l : List (String × ρ)) :
    (insertEntry name r l).Perm ((name, r) :: l) := by
  induction l with
  | nil => exact .refl _
  | cons e rest ih =>
    rw [insertEntry]
    split
    · exact .refl _
    · exact (ih.cons e).trans (.swap _ _ _)

end NestedTx.Registry
