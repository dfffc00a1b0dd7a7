import NestedTx.Proofs.Provider.Operation

/-!
# Steps that fail

A step between levels makes at most one call. It fails if it is refused, without any call, or if its
call fails. Either way the provider is the same as before, so the step can be tried again. The error
of a failed call is handed on inside an error that says which step failed, and at which savepoint.
-/

namespace NestedTx

open Dialogue

/-- The error that hands on the failure of a call. -/
def Call.handOn : Call → DbError → DbError
  | .begin _, e => .beginFailed e
  | .savepoint _ name, e => .savepointFailed name e
  | .commit _, e => .commitFailed e
  | .rollback _, e => .rollbackFailed none e
  | .rollbackTo _ name, e => .rollbackFailed (some name) e
  | _, e => e

namespace Provider

def Operation.isEnter : Operation → Bool
  | .enter _ => true
  | _ => false

/-- Is it a step between levels? -/
def Operation.isStep : Operation → Bool
  | .enter _ | .commit | .rollback | .rollbackTo _ => true
  | _ => false

def Answer.error? : Answer → Option DbError
  | .level (.error e) => some e
  | .done (.error e) => some e
  | .executed (.error e) => some e
  | .queried (.error e) => some e
  | _ => none

@[simp] lemma Operation.error?_failure (op : Operation) (e : DbError) :
    (op.failure e).error? = some e := by
  cases op <;> rfl

variable {p q : Provider} {op : Operation} {calls : List CallExchange} {a : Answer} {e : DbError}

/-! ### Refusals -/

lemma refusal?_of_idle (hop : op.isStep = true) (enter : op.isEnter = false)
    (h : p.transaction = none) : p.refusal? op = some .noActiveTransaction := by
  cases op with
  | enter now => cases enter
  | commit => simp [refusal?, inTransaction, h]
  | rollback => simp [refusal?, inTransaction, h]
  | rollbackTo level => simp [refusal?, inTransaction, h]
  | _ => cases hop

lemma refusal?_zero (h : p.transaction ≠ none) :
    p.refusal? (.rollbackTo 0) = some (.invalidInput
      "Level 0 has no savepoint; use rollback() to undo the whole transaction") := by
  have inside : p.inTransaction = true := Option.isSome_iff_ne_none.2 h
  simp [refusal?, inside]

lemma refusal?_cases (h : p.refusal? op = some e) :
    p.transaction = none ∧ op.isEnter = false ∨ p.transaction ≠ none ∧ op = .rollbackTo 0 := by
  cases ht : p.transaction with
  | none =>
    left
    refine ⟨rfl, ?_⟩
    cases op with
    | enter now => cases h
    | _ => rfl
  | some t =>
    right
    refine ⟨by simp, ?_⟩
    cases op with
    | rollbackTo level =>
      -- inside a transaction only the return to level 0 is refused
      by_cases h0 : level = 0
      · rw [h0]
      · simp [refusal?, inTransaction, ht, h0] at h
    | commit => simp [refusal?, inTransaction, ht] at h
    | rollback => simp [refusal?, inTransaction, ht] at h
    | _ => cases h

/-- A step that is refused makes no call. -/
lemma course_of_refused (h : p.refusal? op = some e)
    (course : Course (p.perform op) calls (a, q)) : calls = [] ∧ a = op.failure e := by
  rw [course_nil_iff.1 (course_of_refusal? h), course_answer_iff] at course
  obtain ⟨rfl, answered⟩ := course
  cases answered
  exact ⟨rfl, rfl⟩

/-! ### Calls that fail -/

lemma handOn_of_control? {c : Call} {wrap : DbError → DbError}
    (h : p.control? op = some (c, wrap)) :
    wrap = c.handOn ∧ ∀ e, (c.handOn e).cause? = some e ∧
      (c.handOn e).isRetryable = e.isRetryable ∧ (c.handOn e).suggestion? = e.suggestion? := by
  unfold control? at h
  split at h
  · cases h
    exact ⟨rfl, fun e => ⟨rfl, rfl, rfl⟩⟩
  · cases h
    exact ⟨rfl, fun e => ⟨rfl, rfl, rfl⟩⟩
  · split_ifs at h
    cases h
    exact ⟨rfl, fun e => ⟨rfl, rfl, rfl⟩⟩
  · split_ifs at h
    · cases h
      exact ⟨rfl, fun e => ⟨rfl, rfl, rfl⟩⟩
    · cases h
      exact ⟨rfl, fun e => ⟨rfl, rfl, rfl⟩⟩
  · split_ifs at h
    cases h
    exact ⟨rfl, fun e => ⟨rfl, rfl, rfl⟩⟩
  · cases h

lemma control?_of_refused (h : p.refusal? op = some e) : p.control? op = none := by
  obtain ⟨idle, enter⟩ | ⟨-, rfl⟩ := refusal?_cases h
  · cases op with
    | enter now => cases enter
    | _ => simp [control?, idle]
  · cases ht : p.transaction <;> simp [control?, ht]

/-- A step between levels makes just the call that it depends on. -/
lemma Move.map_fst_calls (move : p.Move op calls a q) (hop : op.isStep = true) :
    calls.map Sigma.fst = ((p.control? op).map Prod.fst).toList := by
  cases move with
  | refused h => simp [control?_of_refused h]
  | failed h _ => simp [h]
  | begun h => simp [control?, h]
  | entered h => simp [control?, h]
  | committed h h0 => simp [control?, h, h0]
  | left h hn => simp [control?, h, hn]
  | rolledBack h h0 => simp [control?, h, h0]
  | undone h hn => simp [control?, h, hn]
  | @passed t level h hl => simp [control?, h, Nat.not_le.2 hl]
  | returned h h1 hl => simp [control?, h, h1, hl]
  | _ => cases hop

lemma Move.calls_of_control? (move : p.Move op calls a q) (hop : op.isStep = true) {c : Call}
    {wrap : DbError → DbError} (h : p.control? op = some (c, wrap)) : ∃ w, calls = [⟨c, w⟩] := by
  have made := move.map_fst_calls hop
  rw [h] at made
  obtain ⟨x, rfl, rfl⟩ := List.map_eq_singleton_iff.1 made
  exact ⟨x.2, rfl⟩

/-- A step between levels is refused, or its call fails, or it succeeds. -/
lemma Move.outcome (move : p.Move op calls a q) (hop : op.isStep = true) :
    (∃ e, p.refusal? op = some e ∧ calls = [] ∧ a = op.failure e ∧ q = p) ∨
      (∃ x wrap e, p.control? op = some (x.1, wrap) ∧ x.result = .error e ∧ calls = [x] ∧
        a = op.failure (wrap e) ∧ q = p) ∨
      a.error? = none ∧ ∀ x ∈ calls, x.result = .ok () := by
  have one {x : CallExchange} (h : x.result = .ok ()) : ∀ y ∈ [x], CallExchange.result y = .ok () :=
    List.forall_mem_singleton.2 h
  cases move with
  | @refused _ e h => exact .inl ⟨e, h, rfl, rfl, rfl⟩
  | @failed _ x wrap e h hx => exact .inr (.inl ⟨x, wrap, e, h, hx, rfl, rfl, rfl⟩)
  | begun _ => exact .inr (.inr ⟨rfl, one rfl⟩)
  | entered _ => exact .inr (.inr ⟨rfl, one rfl⟩)
  | committed _ _ => exact .inr (.inr ⟨rfl, one rfl⟩)
  | left _ _ => exact .inr (.inr ⟨rfl, List.forall_mem_nil _⟩)
  | rolledBack _ _ => exact .inr (.inr ⟨rfl, one rfl⟩)
  | undone _ _ => exact .inr (.inr ⟨rfl, one rfl⟩)
  | passed _ _ => exact .inr (.inr ⟨rfl, List.forall_mem_nil _⟩)
  | returned _ _ _ => exact .inr (.inr ⟨rfl, one rfl⟩)
  | _ => cases hop

/-- Steps between levels fail without a trace. Whatever is replied, a step ends. It fails just when
it needs a transaction and there is none, when it is to roll back to level 0, and when the one call
that it makes fails. It then leaves the provider as it was, with its depth, its transaction and all
that is derived from them. The error of a failed call is its cause, and the error that carries it
names the savepoint of the call and is as retryable as the cause. -/
theorem failure_atomic (p : Provider) {op : Operation} (hop : op.isStep = true) :
    (∀ reply : (c : Call) → c.Reply, ∃ calls a q, Course (p.perform op) calls (a, q) ∧
      ∀ x ∈ calls, x.2 = reply x.1) ∧
    ∀ {calls : List CallExchange} {a : Answer} {q : Provider},
      Course (p.perform op) calls (a, q) →
      (a.error? ≠ none ↔ p.transaction = none ∧ op.isEnter = false ∨
        p.transaction ≠ none ∧ op = .rollbackTo 0 ∨ ∃ x e, calls = [x] ∧ x.result = .error e) ∧
      (p.transaction = none → op.isEnter = false →
        calls = [] ∧ a.error? = some .noActiveTransaction) ∧
      (p.transaction ≠ none → op = .rollbackTo 0 →
        calls = [] ∧ a.error? = some (.invalidInput
          "Level 0 has no savepoint; use rollback() to undo the whole transaction")) ∧
      calls.length ≤ 1 ∧
      (a.error? ≠ none → q = p) ∧
      ∀ x ∈ calls, ∀ e, x.result = .error e →
        p.control? op = some (x.1, x.1.handOn) ∧ a.error? = some (x.1.handOn e) ∧
          (x.1.handOn e).cause? = some e ∧ (x.1.handOn e).isRetryable = e.isRetryable ∧
          (x.1.handOn e).suggestion? = e.suggestion? := by
  constructor
  · intro reply
    obtain ⟨calls, ⟨a, q⟩, course, replied⟩ := exists_course (p.perform op) reply
    exact ⟨calls, a, q, course, replied⟩
  intro calls a q course
  -- everything else follows from the three outcomes of a step
  have move := Move.of_course course
  have outcome := move.outcome hop
  have idle (h : p.transaction = none) (enter : op.isEnter = false) :
      calls = [] ∧ a = op.failure .noActiveTransaction :=
    course_of_refused (refusal?_of_idle hop enter h) course
  have zero (h : p.transaction ≠ none) (h0 : op = .rollbackTo 0) :
      calls = [] ∧ a = op.failure (.invalidInput
        "Level 0 has no savepoint; use rollback() to undo the whole transaction") := by
    apply course_of_refused _ course
    rw [h0]
    exact refusal?_zero h
  -- when it fails; the two refusals; one call at most; nothing is changed; the error
  refine ⟨?_, ?_, ?_, ?_, ?_, ?_⟩
  · constructor
    · intro failed
      rcases outcome with ⟨e, h, -⟩ | ⟨x, wrap, e, -, hx, hc, -⟩ | ⟨ok, -⟩
      · rcases refusal?_cases h with h | h
        · exact .inl h
        · exact .inr (.inl h)
      · exact .inr (.inr ⟨x, e, hc, hx⟩)
      · exact absurd ok failed
    · rintro (⟨h, enter⟩ | ⟨h, h0⟩ | ⟨x, e, rfl, hx⟩)
      · simp [(idle h enter).2]
      · simp [(zero h h0).2]
      · rcases outcome with ⟨e, -, none, -⟩ | ⟨x, wrap, e, -, -, -, answered, -⟩ | ⟨-, ok⟩
        · cases none
        · simp [answered]
        · rw [ok x List.mem_cons_self] at hx
          cases hx
  · intro h enter
    refine (idle h enter).imp_right fun answered => ?_
    rw [answered, Operation.error?_failure]
  · intro h h0
    refine (zero h h0).imp_right fun answered => ?_
    rw [answered, Operation.error?_failure]
  · rw [← List.length_map Sigma.fst, move.map_fst_calls hop, Option.length_toList]
    split
    · exact Nat.le_refl 1
    · exact Nat.zero_le 1
  · intro failed
    rcases outcome with ⟨e, -, -, -, same⟩ | ⟨x, wrap, e, -, -, -, -, same⟩ | ⟨ok, -⟩
    · exact same
    · exact same
    · exact absurd ok failed
  · intro x hx e failed
    rcases outcome with ⟨_, -, rfl, -⟩ | ⟨y, wrap, e', h, hy, rfl, rfl, -⟩ | ⟨-, ok⟩
    · cases hx
    · obtain rfl := List.mem_singleton.1 hx
      rw [hy] at failed
      cases failed
      obtain ⟨rfl, carried⟩ := handOn_of_control? h
      exact ⟨h, Operation.error?_failure op _, carried e⟩
    · rw [ok x hx] at failed
      cases failed

/-- A rollback at level 2 whose statement takes too long. -/
theorem failure_atomic_timeout :
    ∃ (p : Provider) (x : CallExchange) (a : Answer) (q : Provider),
      p.state = .nested 2 ∧ Course (p.perform .rollback) [x] (a, q) ∧ q = p ∧
      x.1 = .rollbackTo ⟨7⟩ "prv_1_sp_2" ∧
      a.error? =
        some (.rollbackFailed (some "prv_1_sp_2") (.timeout "statement execution" 30)) := by
  have course := (@Move.failed ⟨"prv_1", ⟨0⟩, some ⟨7⟩, 2, some 0⟩ .rollback
    ⟨.rollbackTo ⟨7⟩ "prv_1_sp_2", .error (.timeout "statement execution" 30)⟩ _ _ rfl rfl).course
  obtain ⟨-, steps⟩ := @failure_atomic ⟨"prv_1", ⟨0⟩, some ⟨7⟩, 2, some 0⟩ .rollback rfl
  obtain ⟨fails, -, -, -, same, handed⟩ := steps course
  obtain ⟨-, error, -⟩ := handed _ List.mem_cons_self _ rfl
  exact ⟨_, _, _, _, rfl, course, same (fails.2 (.inr (.inr ⟨_, _, rfl, rfl⟩))), rfl, error⟩

end Provider

end NestedTx
