import NestedTx.Proofs.Provider.Failure

/-!
# Unwinding

A transaction that is `n` levels deep is closed by `n + 1` commits and rollbacks in any mix. All but
the last of them close a level: a rollback goes back to its savepoint, and a commit sends nothing.
The last one decides how the transaction ends. Entering `n + 1` times from outside of a transaction
leads `n` levels deep, so a provider leaves a transaction by as many steps as it came in by.
-/

namespace NestedTx

open Dialogue

namespace Provider

/-- Does it close the innermost unit of work? -/
def Operation.isClosing : Operation → Bool
  | .commit | .rollback => true
  | _ => false

/-- The call that ends the transaction when its outermost unit is closed. -/
def Operation.ending (op : Operation) (handle : TransactionId) : Call :=
  if op = .commit then .commit handle else .rollback handle

/-- The calls that close a level. -/
def Operation.leaving (op : Operation) (handle : TransactionId) (name : String) : List Call :=
  if op = .commit then [] else [.rollbackTo handle name]

/-- A turn that closes a unit of work, and succeeds. -/
def Turn.Closes {σ : Type} (u : Turn σ) : Prop :=
  u.operation.isClosing = true ∧ u.answer.error? = none

/-- A turn that enters a unit of work, and succeeds. -/
def Turn.Enters {σ : Type} (u : Turn σ) : Prop :=
  u.operation.isEnter = true ∧ u.answer.error? = none

variable {p q : Provider} {t : TransactionId} {op : Operation} {calls : List CallExchange}
  {a : Answer}

/-! ### One step -/

/-- Closing a unit of work leaves a level or ends the transaction. -/
lemma Move.closes (move : p.Move op calls a q) (closing : op.isClosing = true)
    (ok : a.error? = none) (inside : p.transaction = some t) :
    (∃ n, p.depth = n + 1 ∧ q = p.atDepth n ∧
        calls.map Sigma.fst = op.leaving t (p.savepointName (n + 1))) ∨
      p.depth = 0 ∧ q = p.finished ∧ calls.map Sigma.fst = [op.ending t] := by
  cases move with
  | refused _ | failed _ _ =>
    rw [Operation.error?_failure] at ok
    cases ok
  | committed h h0 | rolledBack h h0 =>
    cases inside.symm.trans h
    exact .inr ⟨h0, rfl, rfl⟩
  | left h hn | undone h hn =>
    cases inside.symm.trans h
    exact .inl ⟨_, hn, rfl, rfl⟩
  | _ => cases closing

/-- Outside of a transaction nothing can be closed. -/
lemma Move.not_closes_of_idle (move : p.Move op calls a q) (closing : op.isClosing = true)
    (idle : p.transaction = none) : a.error? ≠ none := by
  cases move with
  | refused _ | failed _ _ => simp
  | committed h _ | rolledBack h _ | left h _ | undone h _ => cases idle.symm.trans h
  | _ => cases closing

/-- A unit of work can be closed as long as no call fails. -/
lemma exists_move_closes (closing : op.isClosing = true) (inside : p.transaction = some t) :
    ∃ calls a q, p.Move op calls a q ∧ a.error? = none ∧
      ∀ x ∈ calls, CallExchange.failed x = false := by
  cases op with
  | commit =>
    cases hd : p.depth with
    | zero => exact ⟨_, _, _, .committed inside hd, rfl, List.forall_mem_singleton.2 rfl⟩
    | succ n => exact ⟨_, _, _, .left inside hd, rfl, List.forall_mem_nil _⟩
  | rollback =>
    cases hd : p.depth with
    | zero => exact ⟨_, _, _, .rolledBack inside hd, rfl, List.forall_mem_singleton.2 rfl⟩
    | succ n => exact ⟨_, _, _, .undone inside hd, rfl, List.forall_mem_singleton.2 rfl⟩
  | _ => cases closing

/-- Entering begins a transaction, or goes one level deeper. -/
lemma Move.enters (move : p.Move op calls a q) (enter : op.isEnter = true) (ok : a.error? = none) :
    (p.transaction = none ∧ a = .level (.ok 0) ∧ (∃ t, q.transaction = some t) ∧ q.depth = 0) ∨
      ∃ t, p.transaction = some t ∧ a = .level (.ok (p.depth + 1)) ∧ q.transaction = some t ∧
        q.depth = p.depth + 1 := by
  cases move with
  | refused _ | failed _ _ =>
    rw [Operation.error?_failure] at ok
    cases ok
  | begun h => exact .inl ⟨h, rfl, ⟨_, rfl⟩, rfl⟩
  | entered h => exact .inr ⟨_, h, rfl, h, rfl⟩
  | _ => cases enter

/-- Outside of a transaction, entering begins one. -/
lemma Move.begins {now : Nat} (move : p.Move (.enter now) calls a q)
    (idle : p.transaction = none) :
    (∃ t, calls = [⟨.begin p.resource, .ok t⟩] ∧ a = .level (.ok 0) ∧ q = p.begun t now) ∨
      ∃ e, calls = [⟨.begin p.resource, .error e⟩] ∧ a = .level (.error (.beginFailed e)) ∧
        q = p := by
  cases move with
  | refused h => cases h
  | @failed _ x wrap e needed hx =>
    obtain ⟨c, w⟩ := x
    simp only [control?, idle, Option.some.injEq, Prod.mk.injEq] at needed
    obtain ⟨rfl, rfl⟩ := needed
    cases w with
    | ok t => cases hx
    | error e =>
      cases hx
      exact .inr ⟨_, rfl, rfl, rfl⟩
  | begun _ => exact .inl ⟨_, rfl, rfl, rfl⟩
  | entered h => cases idle.symm.trans h

/-! ### Runs -/

variable {σ : Type} {Step : σ → CallExchange → σ → Prop} {s₀ s : σ} {history : List (Turn σ)}

/-- After some closings a provider is that many levels further out, or has ended its
transaction. -/
lemma Run.closes (run : Run Step p s₀ history q s) (inside : p.transaction = some t)
    (closes : ∀ u ∈ history, u.Closes) :
    (history.length ≤ p.depth ∧ q = p.atDepth (p.depth - history.length)) ∨
      history.length = p.depth + 1 ∧ q = p.finished := by
  induction run with
  | start =>
    refine .inl ⟨Nat.zero_le _, ?_⟩
    rfl
  | @turn history q q' s s' op calls a run course path ih =>
    obtain ⟨before, ⟨closing, ok⟩⟩ := List.forall_mem_append.1 closes |>.imp_right
      List.forall_mem_singleton.1
    rw [List.length_append, List.length_singleton]
    -- there is a level left to close, or the transaction, or nothing
    obtain ⟨bound, rfl⟩ | ⟨-, rfl⟩ := ih before
    · obtain ⟨n, hn, rfl, -⟩ | ⟨h0, rfl, -⟩ := (Move.of_course course).closes closing ok inside
      · have hn : p.depth - history.length = n + 1 := hn
        refine .inl ⟨by omega, ?_⟩
        rw [Nat.sub_add_eq, hn]
        rfl
      · have h0 : p.depth - history.length = 0 := h0
        exact .inr ⟨by omega, rfl⟩
    · exact absurd ok ((Move.of_course course).not_closes_of_idle closing rfl)

/-- A turn among closings closes its level, or it is the last and ends the transaction. -/
lemma Run.calls_closes {before after : List (Turn σ)} {u : Turn σ}
    (run : Run Step p s₀ (before ++ u :: after) q s) (inside : p.transaction = some t)
    (closes : ∀ v ∈ before ++ u :: after, v.Closes) :
    (before.length < p.depth ∧ u.calls.map Sigma.fst
        = u.operation.leaving t (p.savepointName (p.depth - before.length))) ∨
      before.length = p.depth ∧ after = [] ∧
        u.calls.map Sigma.fst = [u.operation.ending t] := by
  obtain ⟨earlier, move⟩ := run.of_append_cons
  obtain ⟨closesBefore, closesRest⟩ := List.forall_mem_append.1 closes
  obtain ⟨closing, ok⟩ := closesRest u List.mem_cons_self
  have whole := run.closes inside closes
  rw [List.length_append, List.length_cons] at whole
  -- where the turn is, by the closings before it
  obtain ⟨bound, here⟩ | ⟨-, here⟩ := earlier.closes inside closesBefore
  · have inside' : u.provider.transaction = some t := by
      rw [here]
      exact inside
    have deep : u.provider.depth = p.depth - before.length := by
      rw [here]
      rfl
    obtain ⟨n, hn, -, made⟩ | ⟨h0, -, made⟩ := move.closes closing ok inside'
    · refine .inl ⟨by omega, ?_⟩
      rw [made, ← hn, deep, here]
      rfl
    · refine .inr ⟨by omega, List.length_eq_zero_iff.1 (by omega), made⟩
  · exact absurd ok (move.not_closes_of_idle closing (here ▸ rfl))

/-- Whatever the mix of commits and rollbacks, it goes through as long as no call fails. -/
lemma exists_run_closes (inside : p.transaction = some t) {ops : List Operation}
    (closing : ∀ op ∈ ops, op.isClosing = true) (bound : ops.length ≤ p.depth + 1) :
    ∃ history q, Run (fun (_ : Unit) x _ => CallExchange.failed x = false) p () history q () ∧
      history.map (·.operation) = ops ∧ ∀ u ∈ history, u.Closes := by
  induction ops using List.reverseRecOn with
  | nil => exact ⟨[], p, .start, rfl, List.forall_mem_nil _⟩
  | append_singleton ops op ih =>
    obtain ⟨before, last⟩ := List.forall_mem_append.1 closing |>.imp_right
      List.forall_mem_singleton.1
    rw [List.length_append, List.length_singleton] at bound
    obtain ⟨history, q, run, rfl, closes⟩ := ih before (by omega)
    rw [List.length_map] at bound
    -- fewer closings than levels and transaction together leave the transaction open
    have still : ∃ t', q.transaction = some t' := by
      obtain ⟨-, rfl⟩ | ⟨gone, -⟩ := run.closes inside closes
      · exact ⟨t, inside⟩
      · omega
    obtain ⟨t', inside'⟩ := still
    obtain ⟨calls, a, q', move, ok, carried⟩ := exists_move_closes last inside'
    refine ⟨_, q', run.turn move.course (Path.of_forall carried), ?_, ?_⟩
    · rw [List.map_append, List.map_singleton]
    · exact List.forall_mem_append.2 ⟨closes, List.forall_mem_singleton.2 ⟨last, ok⟩⟩

/-- The levels that were entered are numbered from the outermost on. -/
lemma Run.enters (run : Run Step p s₀ history q s) (idle : p.transaction = none)
    (enters : ∀ u ∈ history, u.Enters) :
    history.map (·.answer) = (List.range history.length).map (fun level => .level (.ok level)) ∧
      (history = [] ∧ q.transaction = none ∨
        ∃ t, q.transaction = some t ∧ q.depth + 1 = history.length) := by
  induction run with
  | start => exact ⟨rfl, .inl ⟨rfl, idle⟩⟩
  | @turn history q q' s s' op calls a run course path ih =>
    obtain ⟨before, ⟨enter, ok⟩⟩ := List.forall_mem_append.1 enters |>.imp_right
      List.forall_mem_singleton.1
    obtain ⟨numbered, came⟩ := ih before
    rw [List.length_append, List.length_singleton, List.range_succ, List.map_append,
      List.map_append, numbered, List.map_singleton, List.map_singleton]
    -- only the first of the entries finds the provider without a transaction
    obtain ⟨idle', rfl, ⟨t, ht⟩, h0⟩ | ⟨t, ht, rfl, ht', hd⟩ :=
      (Move.of_course course).enters enter ok
    · obtain ⟨rfl, -⟩ | ⟨_, h, -⟩ := came
      · exact ⟨rfl, .inr ⟨t, ht, by rw [h0]; rfl⟩⟩
      · cases idle'.symm.trans h
    · obtain ⟨-, h⟩ | ⟨_, h, length⟩ := came
      · cases h.symm.trans ht
      · cases h.symm.trans ht
        rw [← length]
        exact ⟨rfl, .inr ⟨t, ht', by rw [hd]⟩⟩

lemma perform_closing_of_idle (closing : op.isClosing = true) (idle : p.transaction = none) :
    p.perform op = .answer (op.failure .noActiveTransaction, p) := by
  apply course_nil_iff.1
  apply course_of_refusal?
  cases op with
  | commit | rollback => exact refusal?_of_idle rfl rfl idle
  | _ => cases closing

/-- Every nesting can be unwound, and the last step decides. In a transaction that is some levels
deep, any mix of commits and rollbacks goes through as long as no call fails, up to one more than
there are levels. If they succeed, the provider is out of its transaction just when it is one more;
each of them leaves a level, but for the last, which ends the transaction as it says itself. Outside
of a transaction, commits and rollbacks are refused, and entering begins a new one at level 0. The
levels entered from there are numbered from 0 on, and closed by as many steps. -/
theorem unwinds (Step : σ → CallExchange → σ → Prop) (p : Provider) :
    (∀ t, p.transaction = some t →
      (∀ ops : List Operation, (∀ op ∈ ops, op.isClosing = true) → ops.length ≤ p.depth + 1 →
        ∃ history q, Run (fun (_ : Unit) x _ => CallExchange.failed x = false) p () history q () ∧
          history.map (·.operation) = ops ∧ ∀ u ∈ history, u.Closes) ∧
      ∀ {s₀ s history q}, Run Step p s₀ history q s → (∀ u ∈ history, u.Closes) →
        history.length ≤ p.depth + 1 ∧
        (q.transaction = none ↔ history.length = p.depth + 1) ∧
        ∀ (before after : List (Turn σ)) (u : Turn σ), history = before ++ u :: after →
          before.length < p.depth ∧ u.calls.map Sigma.fst =
            u.operation.leaving t (p.savepointName (p.depth - before.length)) ∨
          before.length = p.depth ∧ after = [] ∧
            u.calls.map Sigma.fst = [u.operation.ending t]) ∧
    (p.transaction = none →
      (∀ op : Operation, op.isClosing = true →
        p.perform op = .answer (op.failure .noActiveTransaction, p)) ∧
      (∀ {now calls a q}, Course (p.perform (.enter now)) calls (a, q) →
        (∃ t, calls = [⟨.begin p.resource, .ok t⟩] ∧ a = .level (.ok 0) ∧ q = p.begun t now) ∨
        ∃ e, calls = [⟨.begin p.resource, .error e⟩] ∧ a = .level (.error (.beginFailed e)) ∧
          q = p) ∧
      ∀ {s₀ s entries closings q}, Run Step p s₀ (entries ++ closings) q s → entries ≠ [] →
        (∀ u ∈ entries, u.Enters) → (∀ u ∈ closings, u.Closes) →
          entries.map (·.answer)
            = (List.range entries.length).map (fun level => .level (.ok level)) ∧
          closings.length ≤ entries.length ∧
          (q.transaction = none ↔ closings.length = entries.length)) := by
  -- a transaction is over after one closing more than it has levels, and not before
  have out {p q : Provider} {t : TransactionId} {s₀ s : σ} {history : List (Turn σ)}
      (inside : p.transaction = some t) (run : Run Step p s₀ history q s)
      (closes : ∀ u ∈ history, u.Closes) :
      history.length ≤ p.depth + 1 ∧ (q.transaction = none ↔ history.length = p.depth + 1) := by
    obtain ⟨bound, rfl⟩ | ⟨whole, rfl⟩ := run.closes inside closes
    · exact ⟨by omega, iff_of_false (by simp [inside]) (by omega)⟩
    · exact ⟨Nat.le_of_eq whole, iff_of_true rfl whole⟩
  refine ⟨?inside, ?idle⟩
  case inside =>
    intro t inside
    refine ⟨fun ops closing bound => exists_run_closes inside closing bound, ?_⟩
    intro s₀ s history q run closes
    obtain ⟨bound, gone⟩ := out inside run closes
    refine ⟨bound, gone, ?_⟩
    rintro before after u rfl
    exact run.calls_closes inside closes
  case idle =>
    intro idle
    refine ⟨fun op closing => perform_closing_of_idle closing idle,
      fun course => (Move.of_course course).begins idle, ?_⟩
    intro s₀ s entries closings q run some_entry enters closes
    obtain ⟨q', s', first, later⟩ := run.of_append
    obtain ⟨numbered, ⟨none, -⟩ | ⟨t, inside, deep⟩⟩ := first.enters idle enters
    · exact absurd none some_entry
    · refine ⟨numbered, ?_⟩
      rw [← deep]
      exact out inside later closes

/-- Two levels are entered and closed, the inner one by a rollback. -/
theorem unwinds_committed :
    ∃ (entries closings : List (Turn Unit)) (p q : Provider),
      p.transaction = none ∧ Run (fun _ _ _ => True) p () (entries ++ closings) q () ∧
      entries.map (·.answer) = [.level (.ok 0), .level (.ok 1)] ∧
      closings.map (·.operation) = [.rollback, .commit] ∧
      (closings.flatMap (·.calls)).map Sigma.fst
        = [.rollbackTo ⟨7⟩ "prv_1_sp_1", .commit ⟨7⟩] ∧
      q.transaction = none := by
  have run : Run (fun (_ : Unit) _ _ => True) (Provider.new "prv_1" ⟨0⟩) () [] _ _ := .start
  have run := run.turn (@Move.begun _ 0 ⟨7⟩ rfl).course (.cons trivial (.nil ()))
  have run := run.turn (@Move.entered _ 1 ⟨7⟩ rfl).course (.cons trivial (.nil ()))
  have run := run.turn (@Move.undone _ ⟨7⟩ 0 rfl rfl).course (.cons trivial (.nil ()))
  have run := run.turn (@Move.committed _ ⟨7⟩ rfl rfl).course (.cons trivial (.nil ()))
  obtain ⟨-, idle⟩ := unwinds (fun (_ : Unit) _ _ => True) (Provider.new "prv_1" ⟨0⟩)
  obtain ⟨-, -, both⟩ := idle rfl
  obtain ⟨numbered, -, gone⟩ := @both _ _ [_, _] [_, _] _ run (by simp)
    (by simp [Turn.Enters, Operation.isEnter, Answer.error?])
    (by simp [Turn.Closes, Operation.isClosing, Answer.error?])
  exact ⟨[_, _], [_, _], _, _, rfl, run, numbered, rfl, rfl, gone.2 rfl⟩

end Provider

end NestedTx
