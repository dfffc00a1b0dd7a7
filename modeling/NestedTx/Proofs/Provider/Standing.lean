import Mathlib.Data.List.Basic
import NestedTx.Proofs.Provider.Backend
import NestedTx.Proofs.Savepoint

/-!
# Standing savepoints

A nested commit leaves its savepoint where it is, and the next unit at that level sets one of the
same name. So the snapshots of a copy hold more than the open levels, and what matters is that the
newest snapshot under the name of an open level is the one that was taken when the level was
entered, and that the levels follow one another.
-/

namespace NestedTx

variable {δ : Type} {policy : NameReuse} {id : String}

/-- No snapshot is named after one of the first `n` levels. -/
def NamesAbove (id : String) (n : Nat) (l : List (String × δ)) : Prop :=
  ∀ x ∈ l, ∀ k, 1 ≤ k → k ≤ n → x.1 ≠ Savepoint.name id k

/-- The snapshots hold one for each open level, the innermost first. A level is given by the copy as
it was when it was entered. -/
inductive Standing (policy : NameReuse) (id : String) :
    List (Copy δ) → List (String × δ) → Prop
  | outermost (l : List (String × δ)) : Standing policy id [] l
  | level {entry : Copy δ} {outer : List (Copy δ)} {newer older : List (String × δ)}
      (other : NamesAbove id (outer.length + 1) newer)
      (before : policy = .shadow → older = entry.snapshots)
      (rest : Standing policy id outer older) :
      Standing policy id (entry :: outer)
        (newer ++ (Savepoint.name id (outer.length + 1), entry.data) :: older)

namespace NamesAbove

variable {m n : Nat} {l l' : List (String × δ)}

lemma nil : NamesAbove id n ([] : List (String × δ)) := by
  intro x hx
  cases hx

lemma mono (h : NamesAbove id n l) (hm : m ≤ n) : NamesAbove id m l :=
  fun x hx k h1 hk => h x hx k h1 (Nat.le_trans hk hm)

lemma append (h : NamesAbove id n l) (h' : NamesAbove id n l') : NamesAbove id n (l ++ l') := by
  intro x hx
  cases List.mem_append.1 hx with
  | inl hx => exact h x hx
  | inr hx => exact h' x hx

lemma single {k : Nat} (d : δ) (hk : n < k) : NamesAbove id n [(Savepoint.name id k, d)] := by
  intro x hx j _ hj he
  rw [List.mem_singleton] at hx
  rw [hx] at he
  exact absurd (Savepoint.name_injective id he) (by omega)

lemma filter (h : NamesAbove id n l) (f : String × δ → Bool) : NamesAbove id n (l.filter f) :=
  fun x hx => h x (List.mem_filter.1 hx).1

/-- The search for the snapshot of an open level passes over them. -/
lemma dropWhile_append (h : NamesAbove id n l) {k : Nat} (h1 : 1 ≤ k) (hk : k ≤ n) :
    (l ++ l').dropWhile (·.1 != Savepoint.name id k)
      = l'.dropWhile (·.1 != Savepoint.name id k) := by
  apply List.dropWhile_append_of_pos
  intro x hx
  exact bne_iff_ne.2 (h x hx k h1 hk)

end NamesAbove

namespace Standing

variable {levels outer : List (Copy δ)} {entry : Copy δ} {l newer : List (String × δ)}

/-- The innermost level stands right after its snapshot was taken or gone back to. -/
lemma innermost {older : List (String × δ)} (before : policy = .shadow → older = entry.snapshots)
    (rest : Standing policy id outer older) :
    Standing policy id (entry :: outer)
      ((Savepoint.name id (outer.length + 1), entry.data) :: older) := by
  have level := Standing.level NamesAbove.nil before rest
  exact level

lemma weaken (h : Standing policy id levels l) (other : NamesAbove id levels.length newer) :
    Standing policy id levels (newer ++ l) := by
  cases h with
  | outermost l => exact .outermost _
  | level other' before rest =>
    rw [← List.append_assoc]
    exact .level (other.append other') before rest

/-- A level that is left has a snapshot that does no harm. -/
lemma leave (h : Standing policy id (entry :: outer) l) : Standing policy id outer l := by
  cases h with
  | @level _ _ newer older other before rest =>
    rw [List.append_cons]
    have single : NamesAbove id outer.length
        [(Savepoint.name id (outer.length + 1), entry.data)] :=
      .single entry.data (Nat.lt_succ_self _)
    exact rest.weaken ((other.mono (Nat.le_succ _)).append single)

/-- Setting a savepoint deeper than every open level keeps theirs, whatever becomes of an older one
of its name. -/
lemma reuse (h : Standing policy id levels l) {k : Nat} (hk : levels.length < k) :
    Standing policy id levels (Session.reuse policy (·.1) (Savepoint.name id k) l) := by
  cases policy with
  | shadow => exact h
  | replace =>
    induction h with
    | outermost l => exact .outermost _
    | @level entry outer newer older other before rest ih =>
      -- what is removed is named after a deeper level than this one
      have hk' : outer.length + 1 < k := hk
      have kept : Savepoint.name id (outer.length + 1) ≠ Savepoint.name id k := by
        intro he
        exact absurd (Savepoint.name_injective id he) (Nat.ne_of_lt hk')
      simp only [Session.reuse, List.filter_append, List.filter_cons, bne_iff_ne.2 kept,
        ↓reduceIte]
      exact .level (other.filter _) nofun (ih (by omega))

lemma enter {c : Copy δ} (h : Standing policy id levels c.snapshots) :
    Standing policy id (c :: levels)
      (c.savepoint policy (Savepoint.name id (levels.length + 1))).snapshots := by
  refine .innermost ?_ (h.reuse (Nat.lt_succ_self _))
  rintro rfl
  rfl

/-- The search for an open level ends at its own snapshot. -/
lemma dropWhile_name (h : Standing policy id levels l) {k : Nat} (h1 : 1 ≤ k)
    (hk : k ≤ levels.length) :
    ∃ entry outer older, levels.drop (levels.length - k) = entry :: outer ∧
      outer.length + 1 = k ∧
      l.dropWhile (·.1 != Savepoint.name id k) = (Savepoint.name id k, entry.data) :: older ∧
      (policy = .shadow → older = entry.snapshots) ∧ Standing policy id outer older := by
  induction h with
  | outermost l =>
    have : k ≤ 0 := hk
    omega
  | @level entry outer newer older other before rest ih =>
    -- what is newer than the innermost level has names of deeper levels, and is passed over
    rw [other.dropWhile_append h1 hk]
    cases Nat.lt_or_eq_of_le hk with
    | inr innermost =>
      have hk' : k = outer.length + 1 := innermost
      subst hk'
      exact ⟨entry, outer, older, by simp, rfl, by simp, before, rest⟩
    | inl further =>
      have hk' : k ≤ outer.length := Nat.lt_succ_iff.1 further
      have skip : ((Savepoint.name id (outer.length + 1), entry.data).1 != Savepoint.name id k)
          = true := by
        apply bne_iff_ne.2
        intro he
        exact absurd (Savepoint.name_injective id he) (by omega)
      obtain ⟨e, lower, older', hd, hl, hs, hb, hr⟩ := ih hk'
      refine ⟨e, lower, older', ?_, hl, ?_, hb, hr⟩
      · rw [← hd, List.length_cons, Nat.succ_sub hk', List.drop_succ_cons]
      · rw [List.dropWhile_cons, if_pos skip, hs]

/-- Rolling back to an open level always finds its snapshot, and the levels up to it stand
afterwards. -/
lemma rollbackTo? {c : Copy δ} (h : Standing policy id levels c.snapshots) {k : Nat} (h1 : 1 ≤ k)
    (hk : k ≤ levels.length) :
    ∃ entry outer older, levels.drop (levels.length - k) = entry :: outer ∧
      outer.length + 1 = k ∧
      c.rollbackTo? (Savepoint.name id k)
        = some ⟨entry.data, (Savepoint.name id k, entry.data) :: older⟩ ∧
      (policy = .shadow → older = entry.snapshots) ∧
      Standing policy id (entry :: outer) ((Savepoint.name id k, entry.data) :: older) := by
  -- the search stops at the snapshot of the level, which becomes the newest one
  obtain ⟨entry, outer, older, hd, rfl, hs, hb, hr⟩ := h.dropWhile_name h1 hk
  refine ⟨entry, outer, older, hd, rfl, ?_, hb, ?_⟩
  · rw [Copy.rollbackTo?, hs]
  · exact .innermost hb hr

/-- Rolling back to an open level restores the data with which it was entered. -/
lemma data_rollbackTo? {c c' : Copy δ} (h : Standing policy id levels c.snapshots) {k : Nat}
    (h1 : 1 ≤ k) (hk : k ≤ levels.length)
    (hc : c.rollbackTo? (Savepoint.name id k) = some c') :
    ∃ entry outer, levels.drop (levels.length - k) = entry :: outer ∧ c'.data = entry.data := by
  obtain ⟨entry, outer, older, hd, -, hc', -, -⟩ := h.rollbackTo? h1 hk
  rw [hc'] at hc
  cases hc
  exact ⟨entry, outer, hd, rfl⟩

end Standing

end NestedTx
