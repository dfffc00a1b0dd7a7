import Mathlib.Data.List.Induction
import NestedTx.Provider
import NestedTx.Proofs.Dialogue

/-!
# Operations of a provider

What can be done with a provider as one type, and what each operation does: the calls it makes with
their replies, its answer, and the provider afterwards. The rules of `Move` say all of it, so that
nothing after this module opens an operation again. A run is a history of operations on one
provider, together with the states of whatever replies to its calls.
-/

namespace NestedTx

open Dialogue

namespace Call

/-- Does the call step between the levels of a transaction? -/
def isStep : Call → Bool
  | .commit _ | .rollback _ | .savepoint _ _ | .rollbackTo _ _ => true
  | _ => false

def isStatement : Call → Bool
  | .execute _ _ | .query _ _ => true
  | _ => false

def isSavepoint : Call → Bool
  | .savepoint _ _ | .rollbackTo _ _ => true
  | _ => false

end Call

abbrev CallExchange : Type :=
  Exchange Call Call.Reply

namespace CallExchange

/-- How a call ended, without what it brought back. Calls that cannot fail end well. -/
def result : CallExchange → DbResult Unit
  | ⟨.begin _, w⟩ => w.map fun _ => ()
  | ⟨.commit _, w⟩ => w
  | ⟨.rollback _, w⟩ => w
  | ⟨.savepoint _ _, w⟩ => w
  | ⟨.rollbackTo _ _, w⟩ => w
  | ⟨.discard _, _⟩ => .ok ()
  | ⟨.execute _ _, w⟩ => w.map fun _ => ()
  | ⟨.query _ _, w⟩ => w.map fun _ => ()
  | ⟨.ping _, w⟩ => w
  | ⟨.close _, _⟩ => .ok ()
  | ⟨.stats _, _⟩ => .ok ()

def failed (x : CallExchange) : Bool :=
  !x.result.isOk

lemma failed_execute (route : Route) (st : Statement) (r : DbResult ExecuteResult) :
    failed ⟨.execute route st, r⟩ = !r.isOk := by
  cases r <;> rfl

lemma failed_query (route : Route) (st : Statement) (r : DbResult Rows) :
    failed ⟨.query route st, r⟩ = !r.isOk := by
  cases r <;> rfl

end CallExchange

namespace Provider

/-- What can be done with a provider. Dropping it gives up its transaction and leaves the resource
open. -/
inductive Operation where
  | enter (now : Nat)
  | commit
  | rollback
  | rollbackTo (level : Nat)
  | execute (s : Statement)
  | query (s : Statement)
  | close
  | drop
  deriving Repr, DecidableEq

/-- What an operation gives back: the level that was entered, whether a step was done, or the
result of a statement. -/
inductive Answer where
  | level (r : DbResult Nat)
  | done (r : DbResult Unit)
  | executed (r : DbResult ExecuteResult)
  | queried (r : DbResult Rows)
  | over
  deriving Repr

@[simp] lemma transaction_atDepth (p : Provider) (depth : Nat) :
    (p.atDepth depth).transaction = p.transaction := rfl

def perform (p : Provider) : Operation → ResourceDialogue (Answer × Provider)
  | .enter now => do
    let (r, q) ← p.enter now
    return (.level r, q)
  | .commit => do
    let (r, q) ← p.commit
    return (.done r, q)
  | .rollback => do
    let (r, q) ← p.rollback
    return (.done r, q)
  | .rollbackTo level => do
    let (r, q) ← p.rollbackTo level
    return (.done r, q)
  | .execute s => return (.executed (← p.execute s), p)
  | .query s => return (.queried (← p.query s), p)
  | .close => return (.over, ← p.close)
  | .drop => return (.over, ← p.discard)

/-- The answer of a step between levels that fails. -/
def Operation.failure : Operation → DbError → Answer
  | .enter _, e => .level (.error e)
  | _, e => .done (.error e)

/-- Why a step between levels is refused without any call. -/
def refusal? (p : Provider) : Operation → Option DbError
  | .commit => if p.inTransaction then none else some .noActiveTransaction
  | .rollback => if p.inTransaction then none else some .noActiveTransaction
  | .rollbackTo level =>
    if !p.inTransaction then some .noActiveTransaction
    else if level = 0 then
      some (.invalidInput "Level 0 has no savepoint; use rollback() to undo the whole transaction")
    else none
  | _ => none

/-- The one call that a step between levels depends on, and the error that hands on its failure. -/
def control? (p : Provider) (op : Operation) : Option (Call × (DbError → DbError)) :=
  match op, p.transaction with
  | .enter _, none => some (.begin p.resource, .beginFailed)
  | .enter _, some t =>
    let name := p.savepointName (p.depth + 1)
    some (.savepoint t name, .savepointFailed name)
  | .commit, some t => if p.depth = 0 then some (.commit t, .commitFailed) else none
  | .rollback, some t =>
    if p.depth = 0 then some (.rollback t, .rollbackFailed none)
    else
      let name := p.savepointName p.depth
      some (.rollbackTo t name, .rollbackFailed (some name))
  | .rollbackTo level, some t =>
    if 1 ≤ level ∧ level ≤ p.depth then
      let name := p.savepointName level
      some (.rollbackTo t name, .rollbackFailed (some name))
    else none
  | _, _ => none

lemma control?_isStatement {p : Provider} {op : Operation} {c : Call} {wrap : DbError → DbError}
    (h : p.control? op = some (c, wrap)) : c.isStatement = false := by
  unfold control? at h
  grind [Call.isStatement]

lemma savepoint_of_control? {p : Provider} {op : Operation} {t : TransactionId} {name : String}
    {wrap : DbError → DbError} (h : p.control? op = some (.savepoint t name, wrap)) :
    p.transaction = some t ∧ name = p.savepointName (p.depth + 1) := by
  unfold control? at h
  split at h
  case h_2 t ht =>
    cases h
    exact ⟨ht, rfl⟩
  all_goals grind

lemma rollbackTo_of_control? {p : Provider} {op : Operation} {t : TransactionId} {name : String}
    {wrap : DbError → DbError} (h : p.control? op = some (.rollbackTo t name, wrap)) :
    ∃ k, p.transaction = some t ∧ name = p.savepointName k ∧ 1 ≤ k ∧ k ≤ p.depth ∧
      (k < p.depth → op = .rollbackTo k) := by
  unfold control? at h
  split at h
  case h_4 t ht =>
    split_ifs at h with h0
    · cases h
    · cases h
      exact ⟨p.depth, ht, rfl, Nat.pos_of_ne_zero h0, Nat.le_refl _,
        fun lt => absurd lt (Nat.lt_irrefl _)⟩
  case h_5 level t ht =>
    split_ifs at h with hl
    cases h
    exact ⟨level, ht, rfl, hl.1, hl.2, fun _ => rfl⟩
  all_goals grind

lemma control?_rollbackTo {p : Provider} {level : Nat} {c : Call} {wrap : DbError → DbError}
    (h : p.control? (.rollbackTo level) = some (c, wrap)) :
    ∃ t, p.transaction = some t ∧ 1 ≤ level ∧ level ≤ p.depth ∧
      c = .rollbackTo t (p.savepointName level) := by
  cases ht : p.transaction with
  | none => simp [control?, ht] at h
  | some t =>
    obtain ⟨⟨h1, hl⟩, rfl, rfl⟩ : (1 ≤ level ∧ level ≤ p.depth) ∧ _ = c ∧ _ = wrap := by
      simpa [control?, ht] using h
    exact ⟨t, rfl, h1, hl, rfl⟩

/-- The ways an operation can go. -/
inductive Move (p : Provider) : Operation → List CallExchange → Answer → Provider → Prop
  | refused {op : Operation} {e : DbError} (h : p.refusal? op = some e) :
      Move p op [] (op.failure e) p
  | failed {op : Operation} {x : CallExchange} {wrap : DbError → DbError} {e : DbError}
      (h : p.control? op = some (x.1, wrap)) (hx : x.result = .error e) :
      Move p op [x] (op.failure (wrap e)) p
  | begun {now : Nat} {t : TransactionId} (h : p.transaction = none) :
      Move p (.enter now) [⟨.begin p.resource, .ok t⟩] (.level (.ok 0)) (p.begun t now)
  | entered {now : Nat} {t : TransactionId} (h : p.transaction = some t) :
      Move p (.enter now) [⟨.savepoint t (p.savepointName (p.depth + 1)), .ok ()⟩]
        (.level (.ok (p.depth + 1))) (p.atDepth (p.depth + 1))
  | committed {t : TransactionId} (h : p.transaction = some t) (h0 : p.depth = 0) :
      Move p .commit [⟨.commit t, .ok ()⟩] (.done (.ok ())) p.finished
  | left {t : TransactionId} {n : Nat} (h : p.transaction = some t) (hn : p.depth = n + 1) :
      Move p .commit [] (.done (.ok ())) (p.atDepth n)
  | rolledBack {t : TransactionId} (h : p.transaction = some t) (h0 : p.depth = 0) :
      Move p .rollback [⟨.rollback t, .ok ()⟩] (.done (.ok ())) p.finished
  | undone {t : TransactionId} {n : Nat} (h : p.transaction = some t) (hn : p.depth = n + 1) :
      Move p .rollback [⟨.rollbackTo t (p.savepointName (n + 1)), .ok ()⟩] (.done (.ok ()))
        (p.atDepth n)
  | passed {t : TransactionId} {level : Nat} (h : p.transaction = some t)
      (hl : p.depth < level) : Move p (.rollbackTo level) [] (.done (.ok ())) p
  | returned {t : TransactionId} {level : Nat} (h : p.transaction = some t) (h1 : 1 ≤ level)
      (hl : level ≤ p.depth) :
      Move p (.rollbackTo level) [⟨.rollbackTo t (p.savepointName level), .ok ()⟩]
        (.done (.ok ())) (p.atDepth level)
  | executed (s : Statement) (r : DbResult ExecuteResult) :
      Move p (.execute s) [⟨.execute p.route s, r⟩] (.executed r) p
  | queried (s : Statement) (r : DbResult Rows) :
      Move p (.query s) [⟨.query p.route s, r⟩] (.queried r) p
  | closed (h : p.transaction = none) : Move p .close [⟨.close p.resource, ()⟩] .over p
  | abandoned {t : TransactionId} (h : p.transaction = some t) :
      Move p .close [⟨.discard t, ()⟩, ⟨.close p.resource, ()⟩] .over p.finished
  | dropped (h : p.transaction = none) : Move p .drop [] .over p
  | discarded {t : TransactionId} (h : p.transaction = some t) :
      Move p .drop [⟨.discard t, ()⟩] .over p.finished

/-! ### Every course of an operation is a move -/

variable {p q : Provider} {op : Operation} {l : List CallExchange} {a : Answer}

lemma move_of_course_enter {now : Nat} (h : Course (p.perform (.enter now)) l (a, q)) :
    p.Move (.enter now) l a q := by
  cases ht : p.transaction with
  | none =>
    simp only [perform, enter, ht] at h
    -- the reply decides: an error is handed on, and anything else begins the transaction
    obtain ⟨w | w, l, rfl, hw⟩ := course_ask_iff.1 h
    · cases hw
      exact .failed (by simp only [control?, ht]) rfl
    · cases hw
      exact .begun ht
  | some t =>
    simp only [perform, enter, ht] at h
    obtain ⟨w | w, l, rfl, hw⟩ := course_ask_iff.1 h
    · cases hw
      exact .failed (by simp only [control?, ht]) rfl
    · cases hw
      exact .entered ht

lemma move_of_course_commit (h : Course (p.perform .commit) l (a, q)) : p.Move .commit l a q := by
  cases ht : p.transaction with
  | none =>
    simp only [perform, commit, ht] at h
    cases h
    exact .refused (by simp [refusal?, inTransaction, ht])
  | some t =>
    cases hd : p.depth with
    | zero =>
      simp only [perform, commit, ht, hd, ↓reduceIte] at h
      obtain ⟨w | w, l, rfl, hw⟩ := course_ask_iff.1 h
      · cases hw
        exact .failed (by simp only [control?, ht, hd, ↓reduceIte]) rfl
      · cases hw
        exact .committed ht hd
    | succ n =>
      simp only [perform, commit, ht, hd, Nat.add_one_ne_zero, ↓reduceIte] at h
      cases h
      exact .left ht hd

lemma move_of_course_rollback (h : Course (p.perform .rollback) l (a, q)) :
    p.Move .rollback l a q := by
  cases ht : p.transaction with
  | none =>
    simp only [perform, rollback, ht] at h
    cases h
    exact .refused (by simp [refusal?, inTransaction, ht])
  | some t =>
    cases hd : p.depth with
    | zero =>
      simp only [perform, rollback, ht, hd, ↓reduceIte] at h
      obtain ⟨w | w, l, rfl, hw⟩ := course_ask_iff.1 h
      · cases hw
        exact .failed (by simp only [control?, ht, hd, ↓reduceIte]) rfl
      · cases hw
        exact .rolledBack ht hd
    | succ n =>
      simp only [perform, rollback, ht, backTo, hd, Nat.add_one_ne_zero, ↓reduceIte] at h
      -- the type of the reply depends on the level, which is therefore left as it is
      rw [hd] at h
      obtain ⟨w | w, l, rfl, hw⟩ := course_ask_iff.1 h
      · cases hw
        exact .failed (by simp only [control?, ht, hd, Nat.add_one_ne_zero, ↓reduceIte]) rfl
      · cases hw
        exact .undone ht hd

lemma move_of_course_rollbackTo {level : Nat}
    (h : Course (p.perform (.rollbackTo level)) l (a, q)) : p.Move (.rollbackTo level) l a q := by
  cases ht : p.transaction with
  | none =>
    simp only [perform, rollbackTo, ht] at h
    cases h
    exact .refused (by simp [refusal?, inTransaction, ht])
  | some t =>
    simp only [perform, rollbackTo, ht] at h
    -- the checks come in this order: level 0, a level that was left, an open level
    split_ifs at h with h0 hl
    · cases h
      exact .refused (by simp [refusal?, inTransaction, ht, h0])
    · cases h
      exact .passed ht hl
    · have h1 : 1 ≤ level := Nat.pos_of_ne_zero h0
      simp only [backTo] at h
      obtain ⟨w | w, l, rfl, hw⟩ := course_ask_iff.1 h
      · cases hw
        exact .failed (by simp only [control?, ht, h1, Nat.not_lt.1 hl, and_self, ↓reduceIte]) rfl
      · cases hw
        exact .returned ht h1 (Nat.not_lt.1 hl)

lemma move_of_course_close (h : Course (p.perform .close) l (a, q)) : p.Move .close l a q := by
  cases ht : p.transaction with
  | none =>
    simp only [perform, close, discard, ht] at h
    obtain ⟨⟨⟩, l, rfl, hw⟩ := course_ask_iff.1 h
    cases hw
    exact .closed ht
  | some t =>
    simp only [perform, close, discard, ht] at h
    obtain ⟨⟨⟩, l, rfl, hd⟩ := course_ask_iff.1 h
    obtain ⟨⟨⟩, l, rfl, hw⟩ := course_ask_iff.1 hd
    cases hw
    exact .abandoned ht

lemma move_of_course_drop (h : Course (p.perform .drop) l (a, q)) : p.Move .drop l a q := by
  cases ht : p.transaction with
  | none =>
    simp only [perform, discard, ht] at h
    cases h
    exact .dropped ht
  | some t =>
    simp only [perform, discard, ht] at h
    obtain ⟨⟨⟩, l, rfl, hw⟩ := course_ask_iff.1 h
    cases hw
    exact .discarded ht

/-- An operation goes by one of the rules, whatever is replied to its calls. -/
theorem Move.of_course (h : Course (p.perform op) l (a, q)) : p.Move op l a q := by
  cases op with
  | enter now => exact move_of_course_enter h
  | commit => exact move_of_course_commit h
  | rollback => exact move_of_course_rollback h
  | rollbackTo level => exact move_of_course_rollbackTo h
  | execute s =>
    obtain ⟨w, l, rfl, hw⟩ := course_ask_iff.1 h
    cases hw
    exact .executed s w
  | query s =>
    obtain ⟨w, l, rfl, hw⟩ := course_ask_iff.1 h
    cases hw
    exact .queried s w
  | close => exact move_of_course_close h
  | drop => exact move_of_course_drop h

lemma course_of_refusal? {e : DbError} (h : p.refusal? op = some e) :
    Course (p.perform op) [] (op.failure e, p) := by
  cases ht : p.transaction with
  | none =>
    cases op with
    | commit =>
      simp only [perform, commit, ht]
      obtain rfl : DbError.noActiveTransaction = e := by simpa [refusal?, inTransaction, ht] using h
      exact .answer _
    | rollback =>
      simp only [perform, rollback, ht]
      obtain rfl : DbError.noActiveTransaction = e := by simpa [refusal?, inTransaction, ht] using h
      exact .answer _
    | rollbackTo level =>
      simp only [perform, rollbackTo, ht]
      obtain rfl : DbError.noActiveTransaction = e := by simpa [refusal?, inTransaction, ht] using h
      exact .answer _
    | _ => cases h
  | some t =>
    cases op with
    | rollbackTo level =>
      obtain ⟨rfl, rfl⟩ : level = 0 ∧ _ = e := by simpa [refusal?, inTransaction, ht] using h
      simp only [perform, rollbackTo, ht, ↓reduceIte]
      exact .answer _
    | commit => simp [refusal?, inTransaction, ht] at h
    | rollback => simp [refusal?, inTransaction, ht] at h
    | _ => cases h

lemma course_of_control? {c : Call} {w : c.Reply} {wrap : DbError → DbError} {e : DbError}
    (h : p.control? op = some (c, wrap)) (hw : CallExchange.result ⟨c, w⟩ = .error e) :
    Course (p.perform op) [⟨c, w⟩] (op.failure (wrap e), p) := by
  cases ht : p.transaction with
  | none =>
    cases op with
    | enter now =>
      simp only [control?, ht, Option.some.injEq, Prod.mk.injEq] at h
      obtain ⟨rfl, rfl⟩ := h
      simp only [perform, enter, ht]
      cases w with
      | ok t => cases hw
      | error e =>
        cases hw
        exact course_ask_iff.2 ⟨.error e, [], rfl, .answer _⟩
    | _ => simp [control?, ht] at h
  | some t =>
    cases op with
    | enter now =>
      simp only [control?, ht, Option.some.injEq, Prod.mk.injEq] at h
      obtain ⟨rfl, rfl⟩ := h
      simp only [perform, enter, ht]
      cases hw
      exact course_ask_iff.2 ⟨.error e, [], rfl, .answer _⟩
    | commit =>
      obtain ⟨h0, rfl, rfl⟩ : p.depth = 0 ∧ _ = c ∧ _ = wrap := by simpa [control?, ht] using h
      simp only [perform, commit, ht, h0, ↓reduceIte]
      cases hw
      exact course_ask_iff.2 ⟨.error e, [], rfl, .answer _⟩
    | rollback =>
      -- the outermost unit depends on another call than a nested one
      by_cases h0 : p.depth = 0
      · obtain ⟨rfl, rfl⟩ : _ = c ∧ _ = wrap := by simpa [control?, ht, h0] using h
        simp only [perform, rollback, ht, h0, ↓reduceIte]
        cases hw
        exact course_ask_iff.2 ⟨.error e, [], rfl, .answer _⟩
      · obtain ⟨rfl, rfl⟩ : _ = c ∧ _ = wrap := by simpa [control?, ht, h0] using h
        simp only [perform, rollback, backTo, ht, h0, ↓reduceIte]
        cases hw
        exact course_ask_iff.2 ⟨.error e, [], rfl, .answer _⟩
    | rollbackTo level =>
      obtain ⟨⟨h1, hl⟩, rfl, rfl⟩ : (1 ≤ level ∧ level ≤ p.depth) ∧ _ = c ∧ _ = wrap := by
        simpa [control?, ht] using h
      have h0 := Nat.ne_of_gt h1
      simp only [perform, rollbackTo, backTo, ht, h0, Nat.not_lt.2 hl, ↓reduceIte]
      cases hw
      exact course_ask_iff.2 ⟨.error e, [], rfl, .answer _⟩
    | _ => simp [control?] at h

/-- Every rule is a course of the operation. -/
theorem Move.course (move : p.Move op l a q) : Course (p.perform op) l (a, q) := by
  cases move with
  | refused h => exact course_of_refusal? h
  | failed h hx => exact course_of_control? h hx
  | begun h =>
    simp only [perform, enter, h]
    exact course_ask_iff.2 ⟨.ok _, [], rfl, .answer _⟩
  | entered h =>
    simp only [perform, enter, h]
    exact course_ask_iff.2 ⟨.ok (), [], rfl, .answer _⟩
  | committed h h0 =>
    simp only [perform, commit, h, h0, ↓reduceIte]
    exact course_ask_iff.2 ⟨.ok (), [], rfl, .answer _⟩
  | left h hn =>
    simp only [perform, commit, h, hn, Nat.add_one_ne_zero, ↓reduceIte]
    exact .answer _
  | rolledBack h h0 =>
    simp only [perform, rollback, h, h0, ↓reduceIte]
    exact course_ask_iff.2 ⟨.ok (), [], rfl, .answer _⟩
  | undone h hn =>
    simp only [perform, rollback, backTo, h, hn, Nat.add_one_ne_zero, ↓reduceIte]
    rw [hn]
    exact course_ask_iff.2 ⟨.ok (), [], rfl, .answer _⟩
  | passed h hl =>
    have h0 := Nat.ne_zero_of_lt hl
    simp only [perform, rollbackTo, h, h0, hl, ↓reduceIte]
    exact .answer _
  | returned h h1 hl =>
    have h0 := Nat.ne_of_gt h1
    simp only [perform, rollbackTo, backTo, h, h0, Nat.not_lt.2 hl, ↓reduceIte]
    exact course_ask_iff.2 ⟨.ok (), [], rfl, .answer _⟩
  | executed s r => exact course_ask_iff.2 ⟨r, [], rfl, .answer _⟩
  | queried s r => exact course_ask_iff.2 ⟨r, [], rfl, .answer _⟩
  | closed h =>
    simp only [perform, close, discard, h]
    exact course_ask_iff.2 ⟨(), [], rfl, .answer _⟩
  | abandoned h =>
    simp only [perform, close, discard, h]
    exact course_ask_iff.2 ⟨(), _, rfl, course_ask_iff.2 ⟨(), [], rfl, .answer _⟩⟩
  | dropped h =>
    simp only [perform, discard, h]
    exact .answer _
  | discarded h =>
    simp only [perform, discard, h]
    exact course_ask_iff.2 ⟨(), [], rfl, .answer _⟩

lemma Move.id_eq (h : p.Move op l a q) : q.id = p.id := by
  cases h <;> rfl

lemma Move.resource_eq (h : p.Move op l a q) : q.resource = p.resource := by
  cases h <;> rfl

/-! ### Runs -/

/-- One operation of a run, with the provider and the state of the partner before and after. -/
structure Turn (σ : Type) where
  provider : Provider
  state : σ
  operation : Operation
  calls : List CallExchange
  answer : Answer
  next : Provider
  nextState : σ

/-- The histories that begin with a provider and a partner that changes by `Step`. -/
inductive Run {σ : Type} (Step : σ → CallExchange → σ → Prop) (p₀ : Provider) (s₀ : σ) :
    List (Turn σ) → Provider → σ → Prop
  | start : Run Step p₀ s₀ [] p₀ s₀
  | turn {history : List (Turn σ)} {p q : Provider} {s s' : σ} {op : Operation}
      {calls : List CallExchange} {a : Answer} (run : Run Step p₀ s₀ history p s)
      (course : Course (p.perform op) calls (a, q)) (path : Path Step s calls s') :
      Run Step p₀ s₀ (history ++ [⟨p, s, op, calls, a, q, s'⟩]) q s'

/-- A turn with the states of the partner seen through a view. -/
def Turn.map {σ τ : Type} (view : σ → τ) (u : Turn σ) : Turn τ :=
  ⟨u.provider, view u.state, u.operation, u.calls, u.answer, u.next, view u.nextState⟩

namespace Run

variable {σ τ : Type} {Step : σ → CallExchange → σ → Prop} {p₀ : Provider} {s₀ s : σ}
  {history : List (Turn σ)}

lemma map {View : τ → CallExchange → τ → Prop} (view : σ → τ)
    (h : ∀ {s x s'}, Step s x s' → View (view s) x (view s'))
    (run : Run Step p₀ s₀ history p s) :
    Run View p₀ (view s₀) (history.map (Turn.map view)) p (view s) := by
  induction run with
  | start => exact .start
  | turn run course path ih =>
    rw [List.map_append]
    exact .turn ih course (path.map view h)

lemma of_concat {u : Turn σ} (run : Run Step p₀ s₀ (history ++ [u]) p s) :
    Run Step p₀ s₀ history u.provider u.state ∧
      u.provider.Move u.operation u.calls u.answer u.next ∧ Path Step u.state u.calls u.nextState ∧
      p = u.next ∧ s = u.nextState := by
  generalize hl : history ++ [u] = l at run
  cases run with
  | start => exact absurd hl (by simp)
  | turn run course path =>
    obtain ⟨rfl, rfl⟩ := List.append_singleton_inj.1 hl
    exact ⟨run, Move.of_course course, path, rfl, rfl⟩

lemma of_append_cons {before after : List (Turn σ)} {u : Turn σ}
    (run : Run Step p₀ s₀ (before ++ u :: after) p s) :
    Run Step p₀ s₀ before u.provider u.state ∧
      u.provider.Move u.operation u.calls u.answer u.next := by
  -- a run is built up at its end, so the later turns are taken off from there
  induction after using List.reverseRecOn generalizing p s with
  | nil =>
    obtain ⟨earlier, move, -⟩ := run.of_concat
    exact ⟨earlier, move⟩
  | append_singleton after v ih =>
    rw [← List.cons_append, ← List.append_assoc] at run
    exact ih run.of_concat.1

lemma of_append {before after : List (Turn σ)} (run : Run Step p₀ s₀ (before ++ after) p s) :
    ∃ q u, Run Step p₀ s₀ before q u ∧ Run Step q u after p s := by
  induction after using List.reverseRecOn generalizing p s with
  | nil =>
    rw [List.append_nil] at run
    exact ⟨p, s, run, .start⟩
  | append_singleton after v ih =>
    rw [← List.append_assoc] at run
    obtain ⟨earlier, move, path, rfl, rfl⟩ := run.of_concat
    obtain ⟨q, u, first, later⟩ := ih earlier
    exact ⟨q, u, first, later.turn move.course path⟩

lemma id_eq (run : Run Step p₀ s₀ history p s) : p.id = p₀.id := by
  induction run with
  | start => rfl
  | turn run course path ih =>
    rw [(Move.of_course course).id_eq]
    exact ih

lemma resource_eq (run : Run Step p₀ s₀ history p s) : p.resource = p₀.resource := by
  induction run with
  | start => rfl
  | turn run course path ih =>
    rw [(Move.of_course course).resource_eq]
    exact ih

end Run

end Provider

end NestedTx
