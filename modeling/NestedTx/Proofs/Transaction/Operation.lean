import NestedTx.Transaction
import NestedTx.Proofs.Dialogue

/-!
# Operations of a transaction

What can be done with a transaction on a connection as one type, and what each operation does: the
calls it makes with their replies, its answer, and the transaction afterwards. An operation that is
refused makes no call. The name of a savepoint is looked at before anything else, whether or not the
transaction is finished.
-/

namespace NestedTx

open Dialogue

abbrev ConnectionExchange : Type :=
  Exchange ConnectionCall ConnectionCall.Reply

/-- Is it a statement on the given connection? -/
def ConnectionCall.IsStatementOn (c : ConnectionId) : ConnectionCall → Prop
  | execute c' _ => c' = c
  | query c' _ => c' = c
  | _ => False

namespace Transaction

inductive Operation where
  | execute (s : Statement)
  | query (s : Statement)
  | commit
  | rollback
  | savepoint (name : String)
  | rollbackTo (name : String)
  deriving Repr, DecidableEq

inductive Answer where
  | executed (r : DbResult ExecuteResult)
  | queried (r : DbResult Rows)
  | done (r : DbResult Unit)
  deriving Repr

def perform (t : Transaction) : Operation → ConnectionDialogue (Answer × Transaction)
  | .execute s => return (.executed (← t.execute s), t)
  | .query s => return (.queried (← t.query s), t)
  | .commit => do
    let (r, t) ← t.commit
    return (.done r, t)
  | .rollback => do
    let (r, t) ← t.rollback
    return (.done r, t)
  | .savepoint name => return (.done (← t.savepoint name), t)
  | .rollbackTo name => return (.done (← t.rollbackTo name), t)

namespace Operation

/-- The answer of an operation that fails. -/
def failure : Operation → DbError → Answer
  | execute _, e => .executed (.error e)
  | query _, e => .queried (.error e)
  | _, e => .done (.error e)

/-- The statement of an operation that finishes the transaction. -/
def final? : Operation → Option String
  | commit => some "COMMIT"
  | rollback => some "ROLLBACK"
  | _ => none

/-- The name and the statement of an operation about a savepoint. -/
def savepoint? : Operation → Option (String × String)
  | savepoint name => some (name, Savepoint.setStatement name)
  | rollbackTo name => some (name, Savepoint.rollbackStatement name)
  | _ => none

/-- What is wrong with the name of a savepoint. -/
def badName? (op : Operation) : Option DbError :=
  match op.savepoint? with
  | none => none
  | some (name, _) =>
    match Savepoint.validate name with
    | .ok () => none
    | .error e => some e

end Operation

/-- Why an operation is refused without any call. -/
def refusal? (t : Transaction) (op : Operation) : Option DbError :=
  op.badName?.or (if t.isFinished then some .noActiveTransaction else none)

/-- The ways an operation can go. -/
inductive Move (t : Transaction) :
    Operation → List ConnectionExchange → Answer → Transaction → Prop
  | refused {op : Operation} {e : DbError} (h : t.refusal? op = some e) :
      Move t op [] (op.failure e) t
  | executed {c : ConnectionId} (h : t.connection = some c) (s : Statement)
      (r : DbResult ExecuteResult) : Move t (.execute s) [⟨.execute c s, r⟩] (.executed r) t
  | queried {c : ConnectionId} (h : t.connection = some c) (s : Statement) (r : DbResult Rows) :
      Move t (.query s) [⟨.query c s, r⟩] (.queried r) t
  | marked {op : Operation} {c : ConnectionId} {name sql : String} (h : t.connection = some c)
      (about : op.savepoint? = some (name, sql)) (valid : Savepoint.validate name = .ok ())
      (r : DbResult ExecuteResult) :
      Move t op [⟨.execute c ⟨sql, []⟩, r⟩] (.done (r.map fun _ => ())) t
  | failed {op : Operation} {c : ConnectionId} {sql : String} (h : t.connection = some c)
      (final : op.final? = some sql) (e : DbError) :
      Move t op [⟨.execute c ⟨sql, []⟩, .error e⟩] (.done (.error e)) t
  | ended {op : Operation} {c : ConnectionId} {sql : String} (h : t.connection = some c)
      (final : op.final? = some sql) (r : ExecuteResult) :
      Move t op [⟨.execute c ⟨sql, []⟩, .ok r⟩, ⟨.release c, ()⟩] (.done (.ok ())) ⟨none⟩

variable {t t' : Transaction} {op : Operation} {l : List ConnectionExchange} {a : Answer}
  {c : ConnectionId} {name sql : String} {e : DbError}

/-! ### Refusals -/

lemma badName?_of_final? (final : op.final? = some sql) : op.badName? = none := by
  cases op with
  | commit => rfl
  | rollback => rfl
  | _ => cases final

lemma badName?_eq_some_iff :
    op.badName? = some e ↔
      ∃ name sql, op.savepoint? = some (name, sql) ∧ Savepoint.validate name = .error e := by
  constructor
  · intro h
    unfold Operation.badName? at h
    split at h
    · cases h
    · split at h
      · cases h
      · cases h
        exact ⟨_, _, by assumption, by assumption⟩
  · rintro ⟨name, sql, about, bad⟩
    simp only [Operation.badName?, about, bad]

lemma badName?_of_valid (about : op.savepoint? = some (name, sql))
    (valid : Savepoint.validate name = .ok ()) : op.badName? = none := by
  simp only [Operation.badName?, about, valid]

lemma failure_of_final? (final : op.final? = some sql) (e : DbError) :
    op.failure e = .done (.error e) := by
  cases op with
  | execute s => cases final
  | query s => cases final
  | _ => rfl

lemma failure_of_savepoint? (about : op.savepoint? = some (name, sql)) (e : DbError) :
    op.failure e = .done (.error e) := by
  cases op with
  | execute s => cases about
  | query s => cases about
  | _ => rfl

lemma refusal?_of_badName (about : op.savepoint? = some (name, sql))
    (bad : Savepoint.validate name = .error e) : t.refusal? op = some e := by
  rw [refusal?, badName?_eq_some_iff.2 ⟨name, sql, about, bad⟩]
  rfl

/-- A finished transaction refuses everything. -/
lemma refusal?_of_finished (h : t.connection = none) (op : Operation) :
    t.refusal? op = some (op.badName?.getD .noActiveTransaction) := by
  cases hb : op.badName? <;> simp [refusal?, isFinished, h, hb]

lemma aboutSavepoint_of_finished (op : Operation) (about : op.savepoint? = some (name, sql))
    (statement : String → String) :
    (⟨none⟩ : Transaction).aboutSavepoint statement name =
      .answer (.error (op.badName?.getD .noActiveTransaction)) := by
  rw [aboutSavepoint]
  cases hv : Savepoint.validate name with
  | error e =>
    rw [badName?_eq_some_iff.2 ⟨name, sql, about, hv⟩]
    rfl
  | ok u =>
    rw [badName?_of_valid about hv]
    rfl

/-- An operation on a finished transaction is over at once. -/
lemma perform_of_finished (h : t.connection = none) :
    t.perform op = .answer (op.failure (op.badName?.getD .noActiveTransaction), t) := by
  obtain rfl : t = ⟨none⟩ := congrArg Transaction.mk h
  cases op with
  | savepoint name =>
    rw [perform, savepoint, aboutSavepoint_of_finished (.savepoint name) rfl]
    rfl
  | rollbackTo name =>
    rw [perform, rollbackTo, aboutSavepoint_of_finished (.rollbackTo name) rfl]
    rfl
  | _ => rfl

lemma Move.of_finished (h : t.connection = none) (move : t.Move op l a t') :
    l = [] ∧ a = op.failure (op.badName?.getD .noActiveTransaction) ∧ t' = t := by
  cases move with
  | refused refusal =>
    rw [refusal?_of_finished h op] at refusal
    cases refusal
    exact ⟨rfl, rfl, rfl⟩
  | executed held _ _ => cases h.symm.trans held
  | queried held _ _ => cases h.symm.trans held
  | marked held _ _ _ => cases h.symm.trans held
  | failed held _ _ => cases h.symm.trans held
  | ended held _ _ => cases h.symm.trans held

/-! ### Every course of an operation is a move -/

lemma move_of_course_final {r : DbResult Unit} (final : op.final? = some sql)
    (h : Course (t.finish sql) l (r, t')) : t.Move op l (.done r) t' := by
  cases ht : t.connection with
  | none =>
    rw [finish, ht] at h
    cases h
    have refused := refusal?_of_finished ht op
    rw [badName?_of_final? final] at refused
    exact failure_of_final? final _ ▸ .refused refused
  | some c =>
    rw [finish, ht] at h
    obtain ⟨w | w, l, rfl, hw⟩ := course_ask_iff.1 h
    · cases hw
      exact .failed ht final w
    · obtain ⟨⟨⟩, l, rfl, hd⟩ := course_ask_iff.1 hw
      cases hd
      exact .ended ht final w

lemma move_of_course_savepoint {statement : String → String} {r : DbResult Unit}
    (about : op.savepoint? = some (name, statement name))
    (h : Course (t.aboutSavepoint statement name) l r) : t.Move op l (.done r) t := by
  rw [aboutSavepoint] at h
  -- the name is looked at first, also when the transaction has ended
  cases hv : Savepoint.validate name with
  | error e =>
    rw [hv] at h
    cases h
    exact failure_of_savepoint? about e ▸ .refused (refusal?_of_badName about hv)
  | ok u =>
    rw [hv] at h
    cases ht : t.connection with
    | none =>
      simp only [control, ht] at h
      cases h
      have refused := refusal?_of_finished ht op
      rw [badName?_of_valid about hv] at refused
      exact failure_of_savepoint? about _ ▸ .refused refused
    | some c =>
      simp only [control, ht] at h
      obtain ⟨w | w, l, rfl, hw⟩ := course_ask_iff.1 h
      · cases hw
        exact .marked ht about hv (.error w)
      · cases hw
        exact .marked ht about hv (.ok w)

lemma Move.of_course (h : Course (t.perform op) l (a, t')) : t.Move op l a t' := by
  cases op with
  | execute s =>
    cases ht : t.connection with
    | none =>
      simp only [perform, execute, ht] at h
      cases h
      exact .refused (refusal?_of_finished ht _)
    | some c =>
      simp only [perform, execute, ht] at h
      obtain ⟨w, l, rfl, hw⟩ := course_ask_iff.1 h
      cases hw
      exact .executed ht s w
  | query s =>
    cases ht : t.connection with
    | none =>
      simp only [perform, query, ht] at h
      cases h
      exact .refused (refusal?_of_finished ht _)
    | some c =>
      simp only [perform, query, ht] at h
      obtain ⟨w, l, rfl, hw⟩ := course_ask_iff.1 h
      cases hw
      exact .queried ht s w
  | commit =>
    obtain ⟨⟨r, u⟩, made, answered⟩ := course_andThen_answer_iff.1 h
    cases answered
    exact move_of_course_final rfl made
  | rollback =>
    obtain ⟨⟨r, u⟩, made, answered⟩ := course_andThen_answer_iff.1 h
    cases answered
    exact move_of_course_final rfl made
  | savepoint name =>
    obtain ⟨r, made, answered⟩ := course_andThen_answer_iff.1 h
    cases answered
    exact move_of_course_savepoint rfl made
  | rollbackTo name =>
    obtain ⟨r, made, answered⟩ := course_andThen_answer_iff.1 h
    cases answered
    exact move_of_course_savepoint rfl made

/-! ### The end of a transaction -/

/-- A commit or a rollback that fails leaves the transaction as it is. -/
lemma course_final_error (h : t.connection = some c) (op : Operation) (final : op.final? = some sql)
    (e : DbError) :
    Course (t.perform op) [⟨.execute c ⟨sql, []⟩, .error e⟩] (.done (.error e), t) := by
  obtain rfl : t = ⟨some c⟩ := congrArg Transaction.mk h
  cases op <;> cases final
  all_goals exact .ask _ (.answer _)

/-- A commit or a rollback that succeeds gives the connection back. -/
lemma course_final_ok (h : t.connection = some c) (op : Operation) (final : op.final? = some sql)
    (r : ExecuteResult) :
    Course (t.perform op) [⟨.execute c ⟨sql, []⟩, .ok r⟩, ⟨.release c, ()⟩]
      (.done (.ok ()), ⟨none⟩) := by
  obtain rfl : t = ⟨some c⟩ := congrArg Transaction.mk h
  have released : Course (do (ConnectionCall.release c).send; return (.done (.ok ()), ⟨none⟩))
      [⟨.release c, ()⟩] (Answer.done (.ok ()), (⟨none⟩ : Transaction)) :=
    course_ask_iff.2 ⟨(), [], rfl, .answer _⟩
  cases op <;> cases final
  all_goals exact .ask _ released

end Transaction

end NestedTx
