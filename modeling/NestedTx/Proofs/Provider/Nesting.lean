import Mathlib.Order.Nat
import NestedTx.Proofs.Provider.Standing

/-!
# Nesting

The levels that are open after a history, and what an operation keeps of a relation between them
and the snapshots in the copy of the transaction. The relation is left open here. It has to survive
the three things that become of snapshots: one is taken, a level is left, and a copy is rolled back.
-/

namespace NestedTx

open Dialogue

namespace Provider

variable {δ : Type}

/-- What a provider works on: the copy of its transaction, or else the durable data. -/
def copyIn (p : Provider) (s : Stored δ) : Copy δ :=
  (p.transaction.bind s.copies).getD ⟨s.durable, []⟩

/-- The levels that are open after a turn, the innermost first. A level is given by the copy as it
was when it was entered. -/
def Turn.levels (u : Turn (Stored δ)) (before : List (Copy δ)) : List (Copy δ) :=
  match u.operation, u.answer with
  | .enter _, .level (.ok 0) => []
  | .enter _, .level (.ok (_ + 1)) => u.provider.copyIn u.state :: before
  | .commit, .done (.ok ()) => before.tail
  | .rollback, .done (.ok ()) => before.tail
  | .rollbackTo level, .done (.ok ()) => before.drop (before.length - level)
  | _, .over => []
  | _, _ => before

def openLevels (history : List (Turn (Stored δ))) : List (Copy δ) :=
  history.foldl (fun levels u => u.levels levels) []

@[simp] lemma openLevels_append (history : List (Turn (Stored δ))) (u : Turn (Stored δ)) :
    openLevels (history ++ [u]) = u.levels (openLevels history) := by
  simp [openLevels]

/-- The copy with which a level was entered. -/
def entryAt? (levels : List (Copy δ)) (level : Nat) : Option (Copy δ) :=
  (levels.drop (levels.length - level)).head?

lemma exists_entryAt? {levels : List (Copy δ)} {k : Nat} (h1 : 1 ≤ k) (hk : k ≤ levels.length) :
    ∃ entry outer, levels.drop (levels.length - k) = entry :: outer ∧ outer.length + 1 = k ∧
      entryAt? levels k = some entry := by
  cases hd : levels.drop (levels.length - k) with
  | nil =>
    rw [List.drop_eq_nil_iff] at hd
    omega
  | cons entry outer =>
    have length_outer := congrArg List.length hd
    rw [List.length_drop, List.length_cons, Nat.sub_sub_self hk] at length_outer
    exact ⟨entry, outer, rfl, length_outer.symm, by rw [entryAt?, hd, List.head?_cons]⟩

/-- A return to an outer level that is reported as failed, but has taken effect. -/
def Turn.SlippedTo (u : Turn (Stored δ)) (level : Nat) : Prop :=
  u.operation = .rollbackTo level ∧ (∃ e, u.answer = .done (.error e)) ∧
    level < u.provider.depth ∧ u.nextState ≠ u.state

lemma Turn.levels_failure {p q : Provider} {s s' : Stored δ} {op : Operation} {e : DbError}
    {calls : List CallExchange} (before : List (Copy δ)) :
    Turn.levels ⟨p, s, op, calls, op.failure e, q, s'⟩ before = before := by
  cases op <;> rfl

/-! ### Relations between levels and snapshots -/

/-- A relation between levels and snapshots that survives whatever becomes of the snapshots. -/
structure Kept (policy : NameReuse) (id : String)
    (holds : List (Copy δ) → List (String × δ) → Prop) : Prop where
  outermost : holds [] []
  enter {levels : List (Copy δ)} {c : Copy δ} (h : holds levels c.snapshots) :
    holds (c :: levels) (c.savepoint policy (Savepoint.name id (levels.length + 1))).snapshots
  leave {entry : Copy δ} {outer : List (Copy δ)} {l : List (String × δ)}
    (h : holds (entry :: outer) l) : holds outer l
  back {levels : List (Copy δ)} {c c' : Copy δ} {k : Nat} (h : holds levels c.snapshots)
    (h1 : 1 ≤ k) (hk : k ≤ levels.length)
    (hc : c.rollbackTo? (Savepoint.name id k) = some c') :
    holds (levels.drop (levels.length - k)) c'.snapshots

/-- A relation that survives even if a copy is rolled back while all its levels stay open. -/
def Tolerant (id : String) (holds : List (Copy δ) → List (String × δ) → Prop) : Prop :=
  ∀ (levels : List (Copy δ)) (c c' : Copy δ) (k : Nat), holds levels c.snapshots →
    c.rollbackTo? (Savepoint.name id k) = some c' → holds levels c'.snapshots

/-- The levels count the depth of the provider, and they are related to the snapshots of its
transaction. -/
inductive Nested (holds : List (Copy δ) → List (String × δ) → Prop) (p : Provider)
    (s : Stored δ) : List (Copy δ) → Prop
  | idle (h : p.transaction = none) (h0 : p.depth = 0) : Nested holds p s []
  | inside {t : TransactionId} {c : Copy δ} {levels : List (Copy δ)}
      (h : p.transaction = some t) (hc : s.copies t = some c)
      (hl : levels.length = p.depth) (related : holds levels c.snapshots) :
      Nested holds p s levels

variable {policy : NameReuse} {id : String} {doubt : Call → Prop} {effects : Effects δ}
  {holds : List (Copy δ) → List (String × δ) → Prop}
  {p q : Provider} {s s' : Stored δ} {t : TransactionId} {c : Copy δ} {levels : List (Copy δ)}
  {op : Operation} {calls : List CallExchange} {a : Answer}

lemma copyIn_of_idle (h : p.transaction = none) : p.copyIn s = ⟨s.durable, []⟩ := by
  rw [copyIn, h]
  rfl

lemma copyIn_of_inside (h : p.transaction = some t) (hc : s.copies t = some c) :
    p.copyIn s = c := by
  rw [copyIn, h, Option.bind_some, hc]
  rfl

namespace Nested

lemma exists_copy (nested : Nested holds p s levels) (h : p.transaction = some t) :
    ∃ c, s.copies t = some c ∧ levels.length = p.depth ∧ holds levels c.snapshots := by
  cases nested with
  | idle h' _ =>
    rw [h] at h'
    cases h'
  | inside h' hc hl related =>
    rw [h] at h'
    cases h'
    exact ⟨_, hc, hl, related⟩

lemma related_copyIn (nested : Nested holds p s levels) (outermost : holds [] []) :
    holds levels (p.copyIn s).snapshots := by
  cases nested with
  | idle h _ =>
    rw [copyIn_of_idle h]
    exact outermost
  | inside h hc hl related =>
    rw [copyIn_of_inside h hc]
    exact related

lemma exists_savepoint (nested : Nested holds p s levels) (h : p.transaction = some t)
    {name : String}
    (step : Stored.Step policy doubt effects s ⟨.savepoint t name, .ok ()⟩ s') :
    ∃ c, s.copies t = some c ∧ levels.length = p.depth ∧ holds levels c.snapshots ∧
      s' = s.put t (some (c.savepoint policy name)) := by
  obtain ⟨c, hc, hl, related⟩ := nested.exists_copy h
  have carried := Stored.carryOut_of_step_ok step rfl rfl
  simp only [Stored.carryOut?, hc, Option.map_some, Option.some.injEq] at carried
  exact ⟨c, hc, hl, related, carried.symm⟩

lemma exists_rollbackTo (nested : Nested holds p s levels) (h : p.transaction = some t)
    {name : String}
    (step : Stored.Step policy doubt effects s ⟨.rollbackTo t name, .ok ()⟩ s') :
    ∃ c c', s.copies t = some c ∧ levels.length = p.depth ∧ holds levels c.snapshots ∧
      c.rollbackTo? name = some c' ∧ s' = s.put t (some c') := by
  obtain ⟨c, hc, hl, related⟩ := nested.exists_copy h
  have carried := Stored.carryOut_of_step_ok step rfl rfl
  simp only [Stored.carryOut?, hc, Option.bind_some, Option.map_eq_some_iff] at carried
  obtain ⟨c', hc', rfl⟩ := carried
  exact ⟨c, c', hc, hl, related, hc', rfl⟩

lemma eq_nil (nested : Nested holds p s levels) (h : p.transaction = some t) (h0 : p.depth = 0) :
    levels = [] := by
  obtain ⟨c, -, hl, -⟩ := nested.exists_copy h
  exact List.length_eq_zero_iff.1 (hl.trans h0)

lemma length_eq (nested : Nested holds p s levels) : levels.length = p.depth := by
  cases nested with
  | idle _ h0 => exact h0.symm
  | inside _ _ hl _ => exact hl

lemma idle_of_idle (nested : Nested holds p s levels) (h : p.transaction = none) (s' : Stored δ) :
    Nested holds p s' [] := by
  cases nested with
  | idle _ h0 => exact .idle h h0
  | inside h' _ _ _ => cases h.symm.trans h'

/-- Statements always meet data. -/
lemma dataAt?_route (nested : Nested holds p s levels) :
    s.dataAt? p.route = some (p.copyIn s).data := by
  cases nested with
  | idle h _ => rw [copyIn_of_idle h, route, h, Stored.dataAt?]
  | inside h hc hl related =>
    rw [copyIn_of_inside h hc, route, h, Stored.dataAt?, hc, Option.map_some]

/-- A statement changes the data and leaves the snapshots. -/
lemma setDataAt (nested : Nested holds p s levels) (d : δ) :
    Nested holds p (s.setDataAt p.route d) levels := by
  cases nested with
  | idle h h0 => exact .idle h h0
  | @inside t c _ h hc hl related =>
    rw [route, h, Stored.setDataAt, hc]
    exact .inside (c := { c with data := d }) h (Stored.copies_put_self ..) hl related

/-- What a step between levels leaves behind when it is reported as failed. -/
lemma failed {c : Call} {wrap : DbError → DbError} (kept : Kept policy p.id holds)
    (nested : Nested holds p s levels) (hd : ∀ c, doubt c → c.isSavepoint = true)
    (h : p.control? op = some (c, wrap))
    (done : s' = s ∨ doubt c ∧ s.carryOut? policy c = some s')
    (slip : Tolerant p.id holds ∨ ∀ k, op = .rollbackTo k → k < p.depth → s' = s) :
    Nested holds p s' levels := by
  -- a call that left no trace is no concern; from here on it was carried out
  by_cases hs : s' = s
  · rw [hs]
    exact nested
  obtain ⟨inDoubt, carried⟩ := done.resolve_left hs
  cases c with
  | savepoint handle name =>
    obtain ⟨ht, rfl⟩ := savepoint_of_control? h
    obtain ⟨c, hc, hl, related⟩ := nested.exists_copy ht
    simp only [Stored.carryOut?, hc, Option.map_some, Option.some.injEq] at carried
    subst carried
    refine .inside ht (Stored.copies_put_self ..) hl ?_
    rw [savepointName, ← hl]
    -- the new snapshot is named after a level that is not open
    exact kept.leave (kept.enter related)
  | rollbackTo handle name =>
    obtain ⟨k, ht, rfl, h1, hk, outer⟩ := rollbackTo_of_control? h
    obtain ⟨c, hc, hl, related⟩ := nested.exists_copy ht
    simp only [Stored.carryOut?, hc, Option.bind_some, Option.map_eq_some_iff] at carried
    obtain ⟨c', hc', rfl⟩ := carried
    refine .inside ht (Stored.copies_put_self ..) hl ?_
    cases Nat.lt_or_eq_of_le hk with
    | inl lt =>
      have tolerant := slip.resolve_right fun h => hs (h k (outer lt) lt)
      exact tolerant levels c c' k related hc'
    | inr innermost =>
      -- all open levels are within the one gone back to
      have := kept.back related h1 (hk.trans_eq hl.symm) hc'
      rwa [hl, innermost, Nat.sub_self, List.drop_zero] at this
  | _ => cases hd _ inDoubt

/-- An operation keeps the levels counted and related to the snapshots. -/
theorem turn (kept : Kept policy p.id holds) (nested : Nested holds p s levels)
    (hd : ∀ c, doubt c → c.isSavepoint = true) (move : p.Move op calls a q)
    (path : Path (Stored.Step policy doubt effects) s calls s')
    (slip : Tolerant p.id holds ∨ ∀ level, ¬ Turn.SlippedTo ⟨p, s, op, calls, a, q, s'⟩ level) :
    Nested holds q s' (Turn.levels ⟨p, s, op, calls, a, q, s'⟩ levels) := by
  cases move with
  | refused h =>
    obtain rfl := path_nil_iff.1 path
    rw [Turn.levels_failure]
    exact nested
  | @failed _ x wrap e h hx =>
    have step := path_singleton_iff.1 path
    rw [Turn.levels_failure]
    refine nested.failed kept hd h (Stored.step_error step hx (control?_isStatement h)) ?_
    refine slip.imp_right fun still k hop hk => ?_
    -- a slip would be a change of the backend behind a failed return to an outer level
    subst hop
    by_contra hs
    exact still k ⟨rfl, ⟨wrap e, rfl⟩, hk, hs⟩
  | begun h =>
    have step := path_singleton_iff.1 path
    obtain ⟨-, rfl⟩ := Stored.step_begin_ok step
    exact .inside rfl (Stored.copies_put_self ..) rfl kept.outermost
  | @entered now t h =>
    have step := path_singleton_iff.1 path
    obtain ⟨c, hc, hl, related, rfl⟩ := nested.exists_savepoint h step
    simp only [Turn.levels, copyIn_of_inside h hc]
    refine .inside h (Stored.copies_put_self ..) (congrArg (· + 1) hl) ?_
    rw [savepointName, ← hl]
    exact kept.enter related
  | committed h h0 =>
    obtain rfl := nested.eq_nil h h0
    exact .idle rfl rfl
  | @left t n h hn =>
    obtain rfl := path_nil_iff.1 path
    obtain ⟨c, hc, hl, related⟩ := nested.exists_copy h
    cases levels with
    | nil =>
      rw [hn] at hl
      cases hl
    | cons entry outer =>
      refine .inside h hc ?_ (kept.leave related)
      rw [hn] at hl
      exact Nat.succ.inj hl
  | rolledBack h h0 =>
    obtain rfl := nested.eq_nil h h0
    exact .idle rfl rfl
  | @undone t n h hn =>
    have step := path_singleton_iff.1 path
    obtain ⟨c, c', hc, hl, related, hc', rfl⟩ := nested.exists_rollbackTo h step
    rw [hn] at hl
    -- going back to the innermost level keeps all levels; then that level is left
    have still := kept.back related (Nat.le_add_left 1 n) hl.ge hc'
    rw [hl, Nat.sub_self, List.drop_zero] at still
    cases levels with
    | nil => cases hl
    | cons entry outer =>
      exact .inside h (Stored.copies_put_self ..) (Nat.succ.inj hl) (kept.leave still)
  | @passed t level h hlt =>
    obtain rfl := path_nil_iff.1 path
    have hl := nested.length_eq
    -- a level that is passed over lies deeper than all open ones, so none is dropped
    have still : levels.drop (levels.length - level) = levels := by
      rw [Nat.sub_eq_zero_of_le (hl.trans_le hlt.le), List.drop_zero]
    simp only [Turn.levels]
    rw [still]
    exact nested
  | @returned t level h h1 hle =>
    have step := path_singleton_iff.1 path
    obtain ⟨c, c', hc, hl, related, hc', rfl⟩ := nested.exists_rollbackTo h step
    refine .inside h (Stored.copies_put_self ..) ?_ (kept.back related h1 (hl ▸ hle) hc')
    exact List.length_drop.trans (Nat.sub_sub_self (hl ▸ hle))
  | executed st r =>
    have step := path_singleton_iff.1 path
    obtain ⟨_, d', _, _, rfl⟩ | ⟨-, rfl⟩ := Stored.step_execute step
    · exact nested.setDataAt d'
    · exact nested
  | queried st r =>
    have step := path_singleton_iff.1 path
    obtain ⟨_, d', _, _, rfl⟩ | ⟨-, rfl⟩ := Stored.step_query step
    · exact nested.setDataAt d'
    · exact nested
  | closed h => exact nested.idle_of_idle h s'
  | abandoned h => exact .idle rfl rfl
  | dropped h => exact nested.idle_of_idle h s'
  | discarded h => exact .idle rfl rfl

end Nested

/-! ### Runs -/

/-- Without doubt about failed calls there are no slips. -/
lemma Turn.not_slipped (move : p.Move op calls a q)
    (path : Path (Stored.Step policy (fun _ => False) effects) s calls s') :
    ∀ level, ¬ Turn.SlippedTo ⟨p, s, op, calls, a, q, s'⟩ level := by
  rintro level ⟨hop, ⟨e, ha⟩, -, changed⟩
  subst hop ha
  cases move with
  | refused h => exact changed (path_nil_iff.1 path)
  | failed h hx =>
    have step := path_singleton_iff.1 path
    obtain rfl | ⟨⟨⟩, -⟩ := Stored.step_error step hx (control?_isStatement h)
    exact changed rfl

variable {r : ResourceId} {s₀ : Stored δ} {history : List (Turn (Stored δ))}

/-- Along a run the levels stay counted and related to the snapshots. -/
theorem Run.nested (kept : Kept policy id holds) (hd : ∀ c, doubt c → c.isSavepoint = true)
    (run : Run (Stored.Step policy doubt effects) (Provider.new id r) s₀ history p s)
    (slip : Tolerant id holds ∨ ∀ u ∈ history, ∀ level, ¬ u.SlippedTo level) :
    Nested holds p s (openLevels history) := by
  induction run with
  | start => exact .idle rfl rfl
  | turn run course path ih =>
    have earlier := ih (slip.imp_right fun h u hu => h u (List.mem_append_left _ hu))
    have last := slip.imp_right fun h => h _ (List.mem_append_right _ (List.mem_singleton_self _))
    rw [openLevels_append]
    -- the names of savepoints are made of the id, which no operation changes
    have same := run.id_eq
    change _ = id at same
    rw [← same] at kept last
    exact earlier.turn kept hd (Move.of_course course) path last

/-- Along a run in which no failure is in doubt there are no slips. -/
lemma Run.not_slipped
    (run : Run (Stored.Step policy (fun _ => False) effects) (Provider.new id r) s₀ history p s) :
    ∀ u ∈ history, ∀ level, ¬ u.SlippedTo level := by
  induction run with
  | start => exact List.forall_mem_nil _
  | turn run course path ih =>
    refine List.forall_mem_append.2 ⟨ih, List.forall_mem_singleton.2 ?_⟩
    exact Turn.not_slipped (Move.of_course course) path

/-- Savepoints stay standing, as long as no copy is rolled back behind the back of its levels. -/
lemma Standing.kept : Kept policy id (Standing (δ := δ) policy id) where
  outermost := .outermost _
  enter h := h.enter
  leave h := h.leave
  back h h1 hk hc := by
    obtain ⟨entry, outer, older, hd, -, hc', -, still⟩ := h.rollbackTo? h1 hk
    rw [hc'] at hc
    cases hc
    rw [hd]
    exact still

end Provider

end NestedTx
