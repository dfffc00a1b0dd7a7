import NestedTx.Proofs.Provider.Reuse

/-!
# Going back twice

A provider that goes back to one level and then to another ends where the outer of the two would
have led it at once. The savepoint of the outer level lies below that of the inner one, so the first
return does not lose it; and after a return to the outer level the inner one is left already, so the
second return passes it over. A rollback of a nested unit is the return to its own level, after
which the level is left.
-/

namespace NestedTx

open Dialogue

variable {δ : Type} {policy : NameReuse} {effects : Effects δ} {id : String}

/-! ### Snapshots -/

/-- What lies on top of the snapshot of an open level is named after none of the levels up to it. -/
lemma Standing.namesAbove_takeWhile {levels : List (Copy δ)} {l : List (String × δ)}
    (h : Standing policy id levels l) {k : Nat} (h1 : 1 ≤ k) (hk : k ≤ levels.length) :
    NamesAbove id k (l.takeWhile (·.1 != Savepoint.name id k)) := by
  -- by the levels from the inside out; the search passes over each of them up to the one
  induction h with
  | outermost l =>
    have : k ≤ 0 := hk
    omega
  | @level entry outer newer older other before rest ih =>
    have passed : ∀ x ∈ newer, (x.1 != Savepoint.name id k) = true :=
      fun x hx => bne_iff_ne.2 (other x hx k h1 hk)
    rw [List.takeWhile_append_of_pos passed, List.takeWhile_cons]
    by_cases innermost : k = outer.length + 1
    · subst innermost
      simpa using other
    · have further : k ≤ outer.length := Nat.lt_succ_iff.1 (Nat.lt_of_le_of_ne hk innermost)
      -- the snapshot of the innermost level has another name, so the search goes on below it
      have ne : Savepoint.name id (outer.length + 1) ≠ Savepoint.name id k :=
        fun same => innermost (Savepoint.name_injective id same).symm
      rw [if_pos (bne_iff_ne.2 ne), List.append_cons]
      have single : NamesAbove id k [(Savepoint.name id (outer.length + 1), entry.data)] :=
        .single entry.data (Nat.lt_succ_of_le further)
      exact ((other.mono hk).append single).append (ih further)

/-- The snapshot of an outer level is found as well after a return to an inner one. -/
lemma Standing.rollbackTo?_inner {levels : List (Copy δ)} {c c' : Copy δ}
    (h : Standing policy id levels c.snapshots) {inner outer : Nat} (h1 : 1 ≤ outer)
    (ho : outer ≤ inner) (hi : inner ≤ levels.length)
    (back : c.rollbackTo? (Savepoint.name id inner) = some c') :
    c'.rollbackTo? (Savepoint.name id outer) = c.rollbackTo? (Savepoint.name id outer) := by
  have above := (h.namesAbove_takeWhile (Nat.le_trans h1 ho) hi).mono ho
  have found : c.snapshots.dropWhile (·.1 != Savepoint.name id outer) =
      c'.snapshots.dropWhile (·.1 != Savepoint.name id outer) := by
    rw [(Copy.snapshots_of_rollbackTo? back).1]
    -- cut the snapshots where the inner search ends; the outer one does not stop before that
    conv_lhs => rw [← List.takeWhile_append_dropWhile (p := (·.1 != Savepoint.name id inner))
      (l := c.snapshots)]
    exact above.dropWhile_append h1 (Nat.le_refl outer)
  rw [Copy.rollbackTo?, Copy.rollbackTo?, found]

lemma Stored.put_put (s : Stored δ) (t : TransactionId) (c c' : Option (Copy δ)) :
    (s.put t c).put t c' = s.put t c' := by
  simp [put]

namespace Provider

variable {p q : Provider} {s s' : Stored δ} {t : TransactionId} {op : Operation}
  {ops : List Operation} {calls : List CallExchange} {a : Answer} {levels : List (Copy δ)}

/-! ### Series of operations that succeed -/

/-- The operations can succeed one after the other with these calls, and lead there. -/
def Leads (Step : Stored δ → CallExchange → Stored δ → Prop) (p : Provider) (s : Stored δ)
    (ops : List Operation) (calls : List CallExchange) (q : Provider) (s' : Stored δ) : Prop :=
  ∃ history, Run Step p s history q s' ∧ history.map (·.operation) = ops ∧
    history.flatMap (·.calls) = calls ∧ ∀ u ∈ history, u.answer.error? = none

/-- Both series of operations can succeed, and they lead to one provider and one backend. -/
def Interchangeable (Step : Stored δ → CallExchange → Stored δ → Prop) (p : Provider)
    (s : Stored δ) (ops ops' : List Operation) : Prop :=
  ∃ q s', ∀ q₁ s₁, ((∃ calls, Leads Step p s ops calls q₁ s₁) ↔ q₁ = q ∧ s₁ = s') ∧
    ((∃ calls, Leads Step p s ops' calls q₁ s₁) ↔ q₁ = q ∧ s₁ = s')

variable {Step : Stored δ → CallExchange → Stored δ → Prop}

lemma leads_nil_iff : Leads Step p s [] calls q s' ↔ calls = [] ∧ q = p ∧ s' = s := by
  constructor
  · rintro ⟨history, run, none, rfl, -⟩
    obtain rfl := List.map_eq_nil_iff.1 none
    exact ⟨rfl, run.of_nil⟩
  · rintro ⟨rfl, rfl, rfl⟩
    exact ⟨[], .start, rfl, rfl, List.forall_mem_nil _⟩

lemma leads_concat_iff {r : Provider} {u : Stored δ} :
    Leads Step p s (ops ++ [op]) calls r u ↔
      ∃ first q s' last a, Leads Step p s ops first q s' ∧ q.Move op last a r ∧
        Path Step s' last u ∧ a.error? = none ∧ calls = first ++ last := by
  constructor
  · rintro ⟨history, run, whole, rfl, ok⟩
    obtain ⟨before, after, rfl, rfl, one⟩ := List.map_eq_append_iff.1 whole
    obtain ⟨v, rfl, rfl⟩ := List.map_eq_singleton_iff.1 one
    obtain ⟨earlier, move, path, rfl, rfl⟩ := run.of_concat
    obtain ⟨okBefore, okLast⟩ := List.forall_mem_append.1 ok
    exact ⟨_, v.provider, v.state, v.calls, v.answer, ⟨before, earlier, rfl, rfl, okBefore⟩, move,
      path, okLast v List.mem_cons_self, by simp⟩
  · rintro ⟨first, q, s', last, a, ⟨history, run, rfl, rfl, ok⟩, move, path, success, rfl⟩
    refine ⟨_, run.turn move.course path, by simp, by simp, ?_⟩
    exact List.forall_mem_append.2 ⟨ok, List.forall_mem_singleton.2 success⟩

lemma leads_singleton_iff : Leads Step p s [op] calls q s' ↔
    ∃ a, p.Move op calls a q ∧ Path Step s calls s' ∧ a.error? = none := by
  rw [← List.nil_append [op], leads_concat_iff]
  constructor
  · rintro ⟨first, _, _, last, a, none, move, path, ok, rfl⟩
    obtain ⟨rfl, rfl, rfl⟩ := leads_nil_iff.1 none
    exact ⟨a, move, path, ok⟩
  · rintro ⟨a, move, path, ok⟩
    exact ⟨[], p, s, calls, a, leads_nil_iff.2 ⟨rfl, rfl, rfl⟩, move, path, ok, rfl⟩

lemma leads_pair_iff {op' : Operation} {r : Provider} {u : Stored δ} :
    Leads Step p s [op, op'] calls r u ↔
      ∃ first q s' last, Leads Step p s [op] first q s' ∧ Leads Step q s' [op'] last r u ∧
        calls = first ++ last := by
  rw [← List.singleton_append, leads_concat_iff]
  constructor
  · rintro ⟨first, q, s', last, a, before, move, path, ok, rfl⟩
    exact ⟨first, q, s', last, before, leads_singleton_iff.2 ⟨a, move, path, ok⟩, rfl⟩
  · rintro ⟨first, q, s', last, before, one, rfl⟩
    obtain ⟨a, move, path, ok⟩ := leads_singleton_iff.1 one
    exact ⟨first, q, s', last, a, before, move, path, ok, rfl⟩

/-! ### Returns -/

/-- The provider and its backend after a return to a level. -/
def returned (p : Provider) (s : Stored δ) (t : TransactionId) (level : Nat) :
    Provider × Stored δ :=
  if p.depth < level then (p, s)
  else
    (p.atDepth level,
      s.put t ((s.copies t).bind (·.rollbackTo? (p.savepointName level))))

lemma returned_of_lt {level : Nat} (h : p.depth < level) : returned p s t level = (p, s) :=
  if_pos h

lemma returned_of_le {level : Nat} (h : level ≤ p.depth) :
    returned p s t level = (p.atDepth level,
      s.put t ((s.copies t).bind (·.rollbackTo? (p.savepointName level)))) :=
  if_neg (Nat.not_lt.2 h)

/-- A level that was left is passed over, without a call. -/
lemma leads_rollbackTo_passed (inside : p.transaction = some t) {level : Nat}
    (h : p.depth < level) :
    Leads Step p s [.rollbackTo level] calls q s' ↔ calls = [] ∧ q = p ∧ s' = s := by
  rw [leads_singleton_iff]
  constructor
  · rintro ⟨a, move, path, ok⟩
    cases move with
    | refused _ | failed _ _ => simp at ok
    | passed _ _ => exact ⟨rfl, rfl, path_nil_iff.1 path⟩
    | returned h' _ hl =>
      cases inside.symm.trans h'
      exact absurd hl (Nat.not_le.2 h)
  · rintro ⟨rfl, rfl, rfl⟩
    exact ⟨_, .passed inside h, .nil _, rfl⟩

section

variable (nested : Nested (Standing policy p.id) p s levels) (inside : p.transaction = some t)

include nested inside

/-- To an open level there is one way back, by its savepoint. -/
lemma leads_rollbackTo {level : Nat} (h1 : 1 ≤ level) (hl : level ≤ p.depth) :
    Leads (Stored.Step policy (fun _ => False) effects) p s [.rollbackTo level] calls q s' ↔
      calls = [⟨.rollbackTo t (p.savepointName level), .ok ()⟩] ∧
        (q, s') = returned p s t level := by
  obtain ⟨c, c', copy, found, -⟩ := Ideal.exists_rollbackTo? nested inside h1 hl
  rw [leads_singleton_iff, returned_of_le hl, copy, Option.bind_some, found, Prod.mk.injEq]
  constructor
  · rintro ⟨a, move, path, ok⟩
    cases move with
    | refused _ | failed _ _ => simp at ok
    | passed h hlt =>
      cases inside.symm.trans h
      exact absurd hl (Nat.not_le.2 hlt)
    | returned h _ _ =>
      cases inside.symm.trans h
      have carried := Stored.carryOut_of_step_ok (path_singleton_iff.1 path) rfl rfl
      simp only [Stored.carryOut?, copy, Option.bind_some, found, Option.map_some,
        Option.some.injEq] at carried
      exact ⟨rfl, rfl, carried.symm⟩
  · rintro ⟨rfl, rfl, rfl⟩
    refine ⟨_, .returned inside h1 hl, path_singleton_iff.2 (.carried rfl ?_), rfl⟩
    rw [Stored.carryOut?, copy, Option.bind_some, found, Option.map_some]

/-- A return to any level leads to one place. -/
lemma leads_rollbackTo_iff (effects : Effects δ) {level : Nat} (h1 : 1 ≤ level) :
    (∃ calls, Leads (Stored.Step policy (fun _ => False) effects) p s [.rollbackTo level] calls
      q s') ↔ (q, s') = returned p s t level := by
  by_cases h : p.depth < level
  · simp only [leads_rollbackTo_passed inside h, returned_of_lt h, Prod.mk.injEq, exists_eq_left]
  · simp only [leads_rollbackTo nested inside h1 (Nat.not_lt.1 h), exists_eq_left]

/-- After a return the levels up to it are nested as before. -/
lemma nested_returned {level : Nat} (h1 : 1 ≤ level) (hl : level ≤ p.depth) :
    Nested (Standing policy (returned p s t level).1.id) (returned p s t level).1
      (returned p s t level).2 (levels.drop (levels.length - level)) := by
  obtain ⟨c, copy, depth, standing⟩ := nested.exists_copy inside
  rw [← depth] at hl
  obtain ⟨entry, outer, older, whole, count, found, -, still⟩ := standing.rollbackTo? h1 hl
  rw [returned_of_le (depth ▸ hl), copy, Option.bind_some, savepointName, found, whole]
  exact .inside inside (Stored.copies_put_self ..) count still

/-- A return and another one after it are one return, to the outer of the two levels. -/
lemma returned_returned {a b : Nat} (ha : 1 ≤ a) (hb : 1 ≤ b) (hl : a ≤ p.depth) :
    returned (returned p s t a).1 (returned p s t a).2 t b = returned p s t (min a b) := by
  -- a level deeper than the first one is not open any more
  by_cases left : a < b
  · have passed : (returned p s t a).1.depth < b := by rwa [returned_of_le hl]
    rw [returned_of_lt passed, Nat.min_eq_left (Nat.le_of_lt left)]
  have inner : b ≤ a := Nat.not_lt.1 left
  obtain ⟨c, copy, depth, standing⟩ := nested.exists_copy inside
  obtain ⟨entry, outer, older, -, -, found, -, -⟩ := standing.rollbackTo? ha (hl.trans_eq depth.symm)
  -- the outer snapshot is below the inner one, and the first return does not touch it
  have same := standing.rollbackTo?_inner hb inner (hl.trans_eq depth.symm) found
  rw [Nat.min_eq_right inner, returned_of_le hl, returned_of_le (p := p.atDepth a) inner,
    returned_of_le (inner.trans hl)]
  simp only [copy, Option.bind_some, savepointName, found, Stored.copies_put_self, Stored.put_put]
  rw [← same]
  rfl

/-- Two returns, one after the other, lead where the return to the outer level leads. -/
lemma leads_rollbackTo_twice {a b : Nat} (ha : 1 ≤ a) (hb : 1 ≤ b) :
    (∃ calls, Leads (Stored.Step policy (fun _ => False) effects) p s
      [.rollbackTo a, .rollbackTo b] calls q s') ↔ (q, s') = returned p s t (min a b) := by
  -- the first return does something only if its level is open
  by_cases left : p.depth < a
  · have lower : returned p s t (min a b) = returned p s t b := by
      by_cases deeper : p.depth < b
      · rw [returned_of_lt (Nat.lt_min.2 ⟨left, deeper⟩), returned_of_lt deeper]
      · rw [Nat.min_eq_right ((Nat.not_lt.1 deeper).trans (Nat.le_of_lt left))]
    rw [lower, ← leads_rollbackTo_iff nested inside effects hb]
    simp only [leads_pair_iff, leads_rollbackTo_passed inside left]
    simp
  · have hl := Nat.not_lt.1 left
    have after := nested_returned nested inside ha hl
    have inside' : (returned p s t a).1.transaction = some t := by
      rw [returned_of_le hl]
      exact inside
    rw [← returned_returned nested inside ha hb hl, ← leads_rollbackTo_iff after inside' effects hb]
    simp only [leads_pair_iff, leads_rollbackTo nested inside ha hl]
    constructor
    · rintro ⟨_, _, q', u, last, ⟨rfl, led⟩, again, rfl⟩
      rw [← led]
      exact ⟨last, again⟩
    · rintro ⟨last, again⟩
      exact ⟨_, _, _, _, last, ⟨rfl, rfl⟩, again, rfl⟩

/-- A rollback goes back to the innermost level, and out of it. -/
lemma leads_rollback (h1 : 1 ≤ p.depth) :
    Leads (Stored.Step policy (fun _ => False) effects) p s [.rollback] calls q s' ↔
      calls = [⟨.rollbackTo t (p.savepointName p.depth), .ok ()⟩] ∧
        q = p.atDepth (p.depth - 1) ∧ s' = (returned p s t p.depth).2 := by
  obtain ⟨c, c', copy, found, -⟩ := Ideal.exists_rollbackTo? nested inside h1 (Nat.le_refl _)
  obtain ⟨n, hn⟩ := Nat.exists_eq_add_of_le' h1
  rw [leads_singleton_iff, returned_of_le (Nat.le_refl _), copy, Option.bind_some, found]
  constructor
  · rintro ⟨a, move, path, ok⟩
    cases move with
    | refused _ | failed _ _ => simp at ok
    | rolledBack h h0 =>
      cases inside.symm.trans h
      rw [h0] at h1
      cases h1
    | undone h hd =>
      cases inside.symm.trans h
      have carried := Stored.carryOut_of_step_ok (path_singleton_iff.1 path) rfl rfl
      rw [hd] at found ⊢
      simp only [Stored.carryOut?, copy, Option.bind_some, found, Option.map_some,
        Option.some.injEq] at carried
      exact ⟨rfl, rfl, carried.symm⟩
  · rintro ⟨rfl, rfl, rfl⟩
    rw [hn] at found ⊢
    refine ⟨_, .undone inside hn, path_singleton_iff.2 (.carried rfl ?_), rfl⟩
    rw [Stored.carryOut?, copy, Option.bind_some, found, Option.map_some]

omit nested in
/-- A commit of a nested unit leaves its level, without a call. -/
lemma leads_commit (h1 : 1 ≤ p.depth) :
    Leads Step p s [.commit] calls q s' ↔
      calls = [] ∧ q = p.atDepth (p.depth - 1) ∧ s' = s := by
  obtain ⟨n, hn⟩ := Nat.exists_eq_add_of_le' h1
  rw [leads_singleton_iff]
  constructor
  · rintro ⟨a, move, path, ok⟩
    cases move with
    | refused _ | failed _ _ => simp at ok
    | committed h h0 =>
      cases inside.symm.trans h
      rw [h0] at h1
      cases h1
    | left h hd =>
      cases inside.symm.trans h
      rw [hd]
      exact ⟨rfl, rfl, path_nil_iff.1 path⟩
  · rintro ⟨rfl, rfl, rfl⟩
    rw [hn]
    exact ⟨_, .left inside hn, .nil _, rfl⟩

/-- A rollback is the return to the innermost level and a commit, call by call. -/
lemma leads_rollbackTo_commit (h1 : 1 ≤ p.depth) :
    Leads (Stored.Step policy (fun _ => False) effects) p s [.rollbackTo p.depth, .commit] calls
        q s' ↔
      Leads (Stored.Step policy (fun _ => False) effects) p s [.rollback] calls q s' := by
  have same : returned p s t p.depth = (p.atDepth p.depth, (returned p s t p.depth).2) := by
    rw [returned_of_le (Nat.le_refl _)]
  have inside' : (p.atDepth p.depth).transaction = some t := inside
  rw [leads_rollback nested inside h1, leads_pair_iff]
  simp only [leads_rollbackTo nested inside h1 (Nat.le_refl _)]
  rw [same]
  constructor
  · rintro ⟨_, q', u, last, ⟨rfl, led⟩, out, rfl⟩
    cases led
    obtain ⟨rfl, rfl, rfl⟩ := (leads_commit inside' h1).1 out
    exact ⟨rfl, rfl, rfl⟩
  · rintro ⟨rfl, rfl, rfl⟩
    exact ⟨_, _, _, [], ⟨rfl, rfl⟩, (leads_commit inside' h1).2 ⟨rfl, rfl, rfl⟩, rfl⟩

end

/-- Returns compose as a minimum. In a transaction, on a backend of either policy for reused names,
and whatever failed without effect on the way there: a return to one level and then to another can
succeed just as the return to the outer of the two, and they lead to the same provider and the same
data with the same savepoints, so that nothing later tells them apart; a return to a level that is
not open changes nothing and makes no call; and a rollback of a nested unit and the return to its
level with a commit after it lead to one place as well, by the one call that both make. -/
theorem returns_compose {r : ResourceId} {s₀ : Stored δ} {history : List (Turn (Stored δ))}
    (run : Run (Stored.Step policy (fun _ => False) effects) (Provider.new id r) s₀ history p s)
    (inside : p.transaction = some t) :
    (∀ a b, 1 ≤ a → 1 ≤ b →
      Interchangeable (Stored.Step policy (fun _ => False) effects) p s
        [.rollbackTo a, .rollbackTo b] [.rollbackTo (min a b)]) ∧
    (∀ level, p.depth < level → ∀ calls q s',
      Leads (Stored.Step policy (fun _ => False) effects) p s [.rollbackTo level] calls q s' ↔
        calls = [] ∧ q = p ∧ s' = s) ∧
    (1 ≤ p.depth →
      Interchangeable (Stored.Step policy (fun _ => False) effects) p s
        [.rollback] [.rollbackTo p.depth, .commit] ∧
      ∀ ops ∈ [[Operation.rollback], [.rollbackTo p.depth, .commit]], ∀ calls q s',
        Leads (Stored.Step policy (fun _ => False) effects) p s ops calls q s' →
          calls = [⟨.rollbackTo t (p.savepointName p.depth), .ok ()⟩]) := by
  have nested : Nested (Standing policy p.id) p s (openLevels history) := by
    rw [run.id_eq]
    exact run.nested Standing.kept nofun (.inr run.not_slipped)
  refine ⟨?minimum, ?passed, ?nestedRollback⟩
  case minimum =>
    intro a b ha hb
    refine ⟨(returned p s t (min a b)).1, (returned p s t (min a b)).2, fun q₁ s₁ => ?_⟩
    have least : 1 ≤ min a b := Nat.le_min.2 ⟨ha, hb⟩
    rw [leads_rollbackTo_twice nested inside ha hb, leads_rollbackTo_iff nested inside effects least]
    exact ⟨Prod.ext_iff, Prod.ext_iff⟩
  case passed =>
    intro level deeper calls q s'
    exact leads_rollbackTo_passed inside deeper
  case nestedRollback =>
    intro h1
    -- both series lead to the place that the rollback leads to, call by call
    refine ⟨⟨p.atDepth (p.depth - 1), (returned p s t p.depth).2, fun q₁ s₁ => ?_⟩, ?_⟩
    · simp only [leads_rollbackTo_commit nested inside h1, leads_rollback nested inside h1,
        exists_eq_left, and_self]
    · intro ops hops calls q s' led
      have rolledBack : Leads (Stored.Step policy (fun _ => False) effects) p s [.rollback] calls
          q s' := by
        rcases List.mem_cons.1 hops with rfl | hops
        · exact led
        · rw [List.mem_singleton.1 hops] at led
          exact (leads_rollbackTo_commit nested inside h1).1 led
      exact ((leads_rollback nested inside h1).1 rolledBack).1

/-- Two levels deep, over a stale savepoint of the outer level, with a statement at each level. -/
theorem returns_compose_reentered :
    ∃ (history : List (Turn (Stored (List Nat)))) (p : Provider) (s : Stored (List Nat)),
      Run (Stored.Step .shadow (fun _ => False) Connection.counting.effects)
        (Provider.new "prv_1" ⟨0⟩) ⟨[], fun _ => none⟩ history p s ∧
      p.depth = 2 ∧ (s.copies ⟨7⟩).map (·.snapshots.length) = some 3 ∧
      Interchangeable (Stored.Step .shadow (fun _ => False) Connection.counting.effects) p s
        [.rollbackTo 2, .rollbackTo 1] [.rollbackTo 1] ∧
      Interchangeable (Stored.Step .shadow (fun _ => False) Connection.counting.effects) p s
        [.rollback] [.rollbackTo 2, .commit] := by
  have run :=
    (@Run.start _ (Stored.Step .shadow (fun _ => False) Connection.counting.effects)
      (Provider.new "prv_1" ⟨0⟩) ⟨[], fun _ => none⟩)
    |>.turn (@Move.begun _ 0 ⟨7⟩ rfl).course (path_singleton_iff.2 (.begun rfl))
    |>.turn (@Move.entered _ 1 ⟨7⟩ rfl).course (path_singleton_iff.2 (.carried rfl rfl))
    |>.turn (@Move.left _ ⟨7⟩ 0 rfl rfl).course (.nil _)
    |>.turn (Move.executed ⟨"", []⟩ _).course (path_singleton_iff.2 (.executed rfl rfl))
    |>.turn (@Move.entered _ 1 ⟨7⟩ rfl).course (path_singleton_iff.2 (.carried rfl rfl))
    |>.turn (Move.executed ⟨"", []⟩ _).course (path_singleton_iff.2 (.executed rfl rfl))
    |>.turn (@Move.entered _ 1 ⟨7⟩ rfl).course (path_singleton_iff.2 (.carried rfl rfl))
  obtain ⟨minimum, -, nestedRollback⟩ := returns_compose run rfl
  obtain ⟨rolledBack, -⟩ := nestedRollback (by decide)
  exact ⟨_, _, _, run, rfl, rfl, minimum 2 1 (by decide) (by decide), rolledBack⟩

end Provider

end NestedTx
