import NestedTx.Proofs.Provider.Ideal
import NestedTx.Proofs.Provider.Nesting
import NestedTx.Proofs.Server.Session

/-!
# Refinement of nested units of work

A provider on a backend with snapshots cannot be told from the ideal. The savepoints of its open
levels stand, so that a rollback restores what the ideal has saved, however many stale savepoints of
the same names earlier units have left behind.
-/

namespace NestedTx

open Dialogue

namespace Ideal

open Provider

variable {δ : Type}

/-- The ideal that a provider stands for. -/
def of (p : Provider) (s : Stored δ) (levels : List (Copy δ)) : Ideal δ :=
  ⟨s.durable, p.transaction.map fun _ => ⟨(p.copyIn s).data, levels.map (·.data)⟩⟩

end Ideal

namespace Provider

/-- What is seen of a turn. -/
def Turn.observe {δ : Type} (u : Turn (Stored δ)) : Ideal.Observation δ :=
  ⟨u.operation, u.calls.any CallExchange.failed, u.answer, u.nextState.dataAt? u.next.route,
    u.nextState.durable⟩

end Provider

namespace Ideal

open Provider

variable {δ : Type} {policy : NameReuse} {doubt : Call → Prop} {effects : Effects δ}
  {p q : Provider} {s s' : Stored δ} {t : TransactionId} {c : Copy δ} {levels : List (Copy δ)}
  {op : Operation} {calls : List CallExchange} {a : Answer}

/-! ### A provider steps as the ideal does -/

lemma of_idle (h : p.transaction = none) : of p s levels = ⟨s.durable, none⟩ := by
  rw [of, h, Option.map_none]

lemma of_inside (h : p.transaction = some t) (hc : s.copies t = some c) :
    of p s levels = ⟨s.durable, some ⟨c.data, levels.map (·.data)⟩⟩ := by
  rw [of, h, Option.map_some, copyIn_of_inside h hc]

lemma of_atDepth {n : Nat} (h : p.transaction = some t) (hc : s.copies t = some c) :
    of (p.atDepth n) s levels = ⟨s.durable, some ⟨c.data, levels.map (·.data)⟩⟩ :=
  of_inside h hc

/-- A statement meets the data that are visible in the ideal. -/
lemma dataAt?_eq_visible {holds : List (Copy δ) → List (String × δ) → Prop}
    (nested : Nested holds p s levels) : s.dataAt? p.route = some (of p s levels).visible := by
  rw [nested.dataAt?_route]
  cases h : p.transaction with
  | none => rw [of_idle h, copyIn_of_idle h, visible]
  | some t => rw [of, h, Option.map_some, visible]

lemma depth_of {holds : List (Copy δ) → List (String × δ) → Prop}
    (nested : Nested holds p s levels) :
    p.transaction.map (fun _ => p.depth) = (of p s levels).work.map (·.saved.length) := by
  cases nested with
  | idle h h0 => rw [of_idle h, h, Option.map_none, Option.map_none]
  | inside h hc hl related =>
    rw [of_inside h hc, h, Option.map_some, Option.map_some, List.length_map, hl]

/-- The backend can go back to every open level, to the data saved there. -/
lemma exists_rollbackTo? (nested : Nested (Standing policy p.id) p s levels)
    (ht : p.transaction = some t) {level : Nat} (h1 : 1 ≤ level) (hl : level ≤ p.depth) :
    ∃ c c', s.copies t = some c ∧ c.rollbackTo? (p.savepointName level) = some c' ∧
      (of p s levels).savedAt? level = some c'.data := by
  obtain ⟨c, hc, hd, standing⟩ := nested.exists_copy ht
  rw [← hd] at hl
  -- the snapshot that the search finds was taken when the level was entered
  obtain ⟨entry, outer, older, hd, -, hc', -, -⟩ := standing.rollbackTo? h1 hl
  refine ⟨c, _, hc, hc', ?_⟩
  rw [of_inside ht hc, savedAt?, Option.bind_some, List.length_map, ← List.map_drop, hd]
  rfl

/-- A refusal is the ideal's own answer. -/
lemma step?_of_refused {e : DbError} (h : p.refusal? op = some e) :
    (of p s levels).step? op = some (op.failure e, of p s levels) := by
  cases ht : p.transaction with
  | none =>
    rw [of_idle ht]
    cases op <;> simp_all [refusal?, inTransaction, step?, Operation.failure]
  | some t =>
    cases op <;> simp_all [refusal?, inTransaction, step?, Operation.failure, of]

lemma fallible_of_control? {x : Call} {wrap : DbError → DbError}
    (hl : ∀ t, p.transaction = some t → levels.length = p.depth)
    (h : p.control? op = some (x, wrap)) : (of p s levels).fallible op = true := by
  cases ht : p.transaction with
  | none => cases op <;> simp_all [control?, fallible]
  | some t =>
    have hl := hl t ht
    cases op <;> simp_all [control?, fallible, of]

lemma of_setDataAt {holds : List (Copy δ) → List (String × δ) → Prop}
    (nested : Nested holds p s levels) (d : δ) :
    of p (s.setDataAt p.route d) levels = (of p s levels).setVisible d := by
  cases nested with
  | idle h h0 => rw [of_idle h, of_idle h, setVisible, route, h, Stored.setDataAt]
  | @inside t c _ h hc hl related =>
    rw [of_inside h hc, setVisible, route, h, Stored.setDataAt, hc, Option.map_some]
    exact of_inside h (Stored.copies_put_self ..)

/-- Every move of a provider is a step of the ideal it stands for. -/
theorem step_of_move (nested : Nested (Standing policy p.id) p s levels)
    (move : p.Move op calls a q)
    (path : Path (Stored.Step policy (fun _ => False) effects) s calls s') :
    Step effects (of p s levels) op (calls.any CallExchange.failed) a
      (of q s' (Turn.levels ⟨p, s, op, calls, a, q, s'⟩ levels)) := by
  cases move with
  | refused h =>
    obtain rfl := path_nil_iff.1 path
    rw [Turn.levels_failure]
    exact .done (step?_of_refused h)
  | @failed _ x wrap e h hx =>
    have step := path_singleton_iff.1 path
    rw [Turn.levels_failure, List.any_cons, CallExchange.failed, hx]
    -- no failure is in doubt here, so the backend is as it was
    obtain rfl | ⟨⟨⟩, -⟩ := Stored.step_error step hx (control?_isStatement h)
    exact .failed (fallible_of_control? (fun t ht => nested.length_eq) h) _
  | @begun now t h =>
    have step := path_singleton_iff.1 path
    obtain ⟨-, rfl⟩ := Stored.step_begin_ok step
    have outermost : of (p.begun t now) (s.put t (some ⟨s.durable, []⟩)) []
        = ⟨s.durable, some ⟨s.durable, []⟩⟩ :=
      of_inside rfl (Stored.copies_put_self ..)
    refine .done ?_
    rw [of_idle h]
    exact congrArg (fun i => some (Answer.level (.ok 0), i)) outermost.symm
  | @entered now t h =>
    have step := path_singleton_iff.1 path
    obtain ⟨c, hc, hl, -, rfl⟩ := nested.exists_savepoint h step
    refine .done ?_
    rw [of_inside h hc, of_atDepth h (Stored.copies_put_self ..), ← hl]
    simp only [step?, List.length_map, Turn.levels, copyIn_of_inside h hc, List.map_cons,
      Stored.durable_put, Copy.savepoint]
  | @committed t h h0 =>
    have step := path_singleton_iff.1 path
    obtain rfl := nested.eq_nil h h0
    obtain ⟨c, hc, -, -⟩ := nested.exists_copy h
    have carried := Stored.carryOut_of_step_ok step rfl rfl
    simp only [Stored.carryOut?, hc, Option.map_some, Option.some.injEq] at carried
    subst carried
    refine .done ?_
    rw [of_inside h hc, of_idle rfl]
    rfl
  | @left t n h hn =>
    obtain rfl := path_nil_iff.1 path
    obtain ⟨c, hc, hl, -⟩ := nested.exists_copy h
    cases levels with
    | nil =>
      rw [hn] at hl
      cases hl
    | cons entry outer =>
      refine .done ?_
      rw [of_inside h hc, of_atDepth h hc]
      rfl
  | @rolledBack t h h0 =>
    have step := path_singleton_iff.1 path
    obtain rfl := nested.eq_nil h h0
    obtain ⟨c, hc, -, -⟩ := nested.exists_copy h
    have carried := Stored.carryOut_of_step_ok step rfl rfl
    simp only [Stored.carryOut?, hc, Option.map_some, Option.some.injEq] at carried
    subst carried
    refine .done ?_
    rw [of_inside h hc, of_idle rfl]
    rfl
  | @undone t n h hn =>
    have step := path_singleton_iff.1 path
    obtain ⟨c, c', hc, hl, standing, hc', rfl⟩ := nested.exists_rollbackTo h step
    rw [hn] at hl
    obtain ⟨entry, outer, hd, restored⟩ :=
      standing.data_rollbackTo? (Nat.le_add_left 1 n) hl.ge hc'
    -- the innermost level is the first of the levels
    rw [hl, Nat.sub_self, List.drop_zero] at hd
    subst hd
    refine .done ?_
    rw [of_inside h hc, of_atDepth h (Stored.copies_put_self ..), restored]
    rfl
  | @passed t level h hlt =>
    obtain rfl := path_nil_iff.1 path
    obtain ⟨c, hc, hl, -⟩ := nested.exists_copy h
    have still : levels.drop (levels.length - level) = levels := by
      rw [Nat.sub_eq_zero_of_le (hl.trans_le hlt.le), List.drop_zero]
    refine .done ?_
    simp only [Turn.levels]
    rw [still, of_inside h hc, step?_rollbackTo_passed]
    rw [List.length_map, hl]
    exact hlt
  | @returned t level h h1 hle =>
    have step := path_singleton_iff.1 path
    obtain ⟨c, c', hc, hl, standing, hc', rfl⟩ := nested.exists_rollbackTo h step
    rw [← hl] at hle
    obtain ⟨entry, outer, hd, restored⟩ := standing.data_rollbackTo? h1 hle hc'
    refine .done ?_
    simp only [Turn.levels]
    rw [of_inside h hc, of_atDepth h (Stored.copies_put_self ..), hd, restored,
      step?_rollbackTo h1 (by rwa [List.length_map])]
    simp only [Work.backTo, List.length_map, ← List.map_drop, hd, List.map_cons,
      Stored.durable_put]
  | executed st r =>
    have step := path_singleton_iff.1 path
    -- the statement met data and changed them, or it failed and changed nothing
    obtain ⟨d, d', met, changed, rfl⟩ | ⟨⟨e, rfl⟩, rfl⟩ := Stored.step_execute step
    · obtain rfl := Option.some.inj ((dataAt?_eq_visible nested).symm.trans met)
      rw [List.any_cons, CallExchange.failed_execute, List.any_nil, Bool.or_false]
      exact of_setDataAt nested d' ▸ .executed changed
    · exact .notExecuted st e
  | queried st r =>
    have step := path_singleton_iff.1 path
    obtain ⟨d, d', met, changed, rfl⟩ | ⟨⟨e, rfl⟩, rfl⟩ := Stored.step_query step
    · obtain rfl := Option.some.inj ((dataAt?_eq_visible nested).symm.trans met)
      rw [List.any_cons, CallExchange.failed_query, List.any_nil, Bool.or_false]
      exact of_setDataAt nested d' ▸ .queried changed
    · exact .notQueried st e
  | closed h =>
    have step := path_singleton_iff.1 path
    obtain rfl := Stored.step_close step
    refine .done ?_
    rw [of_idle h, of_idle h]
    rfl
  | @abandoned t h =>
    obtain ⟨_, discard, path⟩ := path_cons_iff.1 path
    have step := path_singleton_iff.1 path
    obtain rfl := Stored.step_discard discard
    obtain rfl := Stored.step_close step
    exact .done rfl
  | dropped h =>
    obtain rfl := path_nil_iff.1 path
    refine .done ?_
    rw [of_idle h, of_idle h]
    rfl
  | @discarded t h =>
    have step := path_singleton_iff.1 path
    obtain rfl := Stored.step_discard step
    exact .done rfl

/-! ### Runs -/

variable {id : String} {r : ResourceId} {s₀ : Stored δ} {history : List (Turn (Stored δ))}

lemma run_of_run (run : Provider.Run (Stored.Step policy (fun _ => False) effects)
      (Provider.new id r) s₀ history p s) :
    Run effects ⟨s₀.durable, none⟩ (history.map Turn.observe) (of p s (openLevels history)) := by
  induction run with
  | start => exact .start
  | @turn history p q s s' op calls a run course path ih =>
    -- the step needs the savepoints standing before it, the observation after it
    have nested : Nested (Standing policy p.id) p s (openLevels history) := by
      rw [run.id_eq]
      exact run.nested Standing.kept nofun (.inr run.not_slipped)
    have after : Nested (Standing policy id) q s' (openLevels (history ++ [_])) :=
      (Run.turn run course path).nested Standing.kept nofun
        (.inr (Run.turn run course path).not_slipped)
    have step := step_of_move nested (Move.of_course course) path
    rw [← openLevels_append] at step
    rw [List.map_append, List.map_singleton, Turn.observe, dataAt?_eq_visible after]
    exact .step ih step

end Ideal

namespace Provider

variable {δ : Type} {policy : NameReuse}

/-- Nested units of work on any backend whose failed calls have no effect are those of the ideal:
the answers, the data visible after each operation and the durable data are the same, the same
levels are open, and the backend can go back to each of them, to the data that the ideal has saved
there. -/
theorem refines_ideal (B : Backend δ policy fun _ => False) {id : String} {r : ResourceId}
    {s₀ s : B.State} {history : List (Turn B.State)} {p : Provider}
    (run : Run B.Step (Provider.new id r) s₀ history p s) :
    ∃ i : Ideal δ,
      Ideal.Run B.effects ⟨(B.stored s₀).durable, none⟩
        (history.map fun u => (u.map B.stored).observe) i ∧
      (B.stored s).durable = i.durable ∧
      (B.stored s).dataAt? p.route = some i.visible ∧
      p.transaction.map (fun _ => p.depth) = i.work.map (·.saved.length) ∧
      ∀ t, p.transaction = some t → ∀ level, 1 ≤ level → level ≤ p.depth →
        ∃ c c', (B.stored s).copies t = some c ∧
          c.rollbackTo? (p.savepointName level) = some c' ∧ i.savedAt? level = some c'.data := by
  have seen := run.map B.stored B.sound
  have nested := seen.nested Standing.kept nofun (.inr seen.not_slipped)
  obtain rfl : p.id = id := run.id_eq
  refine ⟨Ideal.of p (B.stored s) (openLevels (history.map (Turn.map B.stored))), ?_, rfl,
    Ideal.dataAt?_eq_visible nested, Ideal.depth_of nested, ?_⟩
  · have ideal := Ideal.run_of_run seen
    rw [List.map_map] at ideal
    exact ideal
  · intro t ht level h1 hl
    exact Ideal.exists_rollbackTo? nested ht h1 hl

/-- A level is entered, left, entered again and rolled back, over the savepoint that the first unit
has left behind. -/
theorem refines_ideal_reentered :
    ∃ (history : List (Turn (Connection (List Nat)))) (p : Provider) (l : Connection (List Nat))
      (i : Ideal (List Nat)),
      Run Connection.counting.Step (Provider.new "prv_1" ⟨0⟩) ⟨[], .autocommit, ⟨0⟩⟩ history p l ∧
      history.length = 8 ∧
      Ideal.Run Connection.counting.effects ⟨[], none⟩
        (history.map fun u => (u.map Connection.counting.stored).observe) i ∧
      l.durable = [0] ∧ i.durable = [0] := by
  have run : Run Connection.counting.Step (Provider.new "prv_1" ⟨0⟩) ⟨[], .autocommit, ⟨0⟩⟩
      [] _ _ := .start
  have run := run.turn (@Move.begun _ 0 ⟨7⟩ rfl).course
    (.cons (.begun rfl) (.nil _))
  have run := run.turn (@Move.entered _ 1 ⟨7⟩ rfl).course
    (.cons (.set rfl _) (.nil _))
  have run := run.turn (Move.left (t := ⟨7⟩) rfl rfl).course (.nil _)
  have run := run.turn (Move.executed ⟨"", []⟩ _).course (.cons (.executed ⟨rfl, rfl⟩ rfl) (.nil _))
  have run := run.turn (@Move.entered _ 1 ⟨7⟩ rfl).course
    (.cons (.set rfl _) (.nil _))
  have run := run.turn (Move.executed ⟨"", []⟩ _).course (.cons (.executed ⟨rfl, rfl⟩ rfl) (.nil _))
  have run := run.turn (Move.undone (t := ⟨7⟩) rfl rfl).course (.cons (.back rfl) (.nil _))
  have run := run.turn (Move.committed (t := ⟨7⟩) rfl rfl).course
    (.cons (.committed rfl) (.nil _))
  obtain ⟨i, ideal, durable, -⟩ := refines_ideal Connection.counting run
  exact ⟨_, _, _, i, run, rfl, ideal, rfl, durable.symm⟩

end Provider

end NestedTx
