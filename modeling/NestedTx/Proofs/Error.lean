import Mathlib.Tactic.Common
import NestedTx.Error.Basic

/-!
# Errors inside of errors

The error of a failed step holds the error that made the step fail, and that one may again be the
error of a failed step. However many steps stand around an error, its suggestion and whether a
retry may help are handed on, the causes lead down to it, and its message stands behind those of
the steps.
-/

namespace NestedTx.DbError

/-- A failed step of a transaction, apart from the error that made it fail. -/
inductive FailedStep where
  | begin
  | savepoint (name : String)
  | commit
  | rollback (target : Option String)
  deriving Repr, DecidableEq

namespace FailedStep

/-- The error of a failed step with its cause. -/
def around : FailedStep → DbError → DbError
  | .begin, cause => beginFailed cause
  | .savepoint name, cause => savepointFailed name cause
  | .commit, cause => commitFailed cause
  | .rollback target, cause => rollbackFailed target cause

/-- What is said of a failed step in front of the message of its cause. -/
def text : FailedStep → String
  | begin => "Failed to begin transaction: "
  | savepoint name => "Failed to create savepoint '" ++ name ++ "': "
  | commit => "Failed to commit transaction: "
  | rollback none => "Failed to roll back: "
  | rollback (some name) => "Failed to roll back to savepoint '" ++ name ++ "': "

variable (step : FailedStep) (cause : DbError)

@[simp] lemma cause?_around : (step.around cause).cause? = some cause := by
  cases step <;> rfl

@[simp] lemma isRetryable_around : (step.around cause).isRetryable = cause.isRetryable := by
  cases step <;> rw [around, isRetryable]

@[simp] lemma suggestion?_around : (step.around cause).suggestion? = cause.suggestion? := by
  cases step <;> rw [around, suggestion?]

@[simp] lemma message_around : (step.around cause).message = step.text ++ cause.message := by
  cases step with
  | rollback target => cases target <;> rw [around, message] <;> rfl
  | _ => rw [around, message]; rfl

end FailedStep

/-- The error of failed steps around an error, the outermost step first. -/
def inside (steps : List FailedStep) (root : DbError) : DbError :=
  steps.foldr FailedStep.around root

/-- The error that is reached by asking for the cause a number of times. -/
def causeAfter? : Nat → DbError → Option DbError
  | 0, e => some e
  | n + 1, e => e.cause?.bind (causeAfter? n)

variable {root : DbError}

@[simp] lemma inside_cons (step : FailedStep) (steps : List FailedStep) :
    root.inside (step :: steps) = step.around (root.inside steps) := rfl

/-- Every error is one without a cause inside of failed steps. -/
lemma exists_inside (e : DbError) :
    ∃ (steps : List FailedStep) (root : DbError), root.cause? = none ∧ e = root.inside steps := by
  induction e with
  | beginFailed cause ih =>
    obtain ⟨steps, root, innermost, rfl⟩ := ih
    exact ⟨.begin :: steps, root, innermost, rfl⟩
  | savepointFailed name cause ih =>
    obtain ⟨steps, root, innermost, rfl⟩ := ih
    exact ⟨.savepoint name :: steps, root, innermost, rfl⟩
  | commitFailed cause ih =>
    obtain ⟨steps, root, innermost, rfl⟩ := ih
    exact ⟨.commit :: steps, root, innermost, rfl⟩
  | rollbackFailed savepoint cause ih =>
    obtain ⟨steps, root, innermost, rfl⟩ := ih
    exact ⟨.rollback savepoint :: steps, root, innermost, rfl⟩
  | _ => exact ⟨[], _, rfl, rfl⟩

lemma isRetryable_inside (steps : List FailedStep) :
    (root.inside steps).isRetryable = root.isRetryable := by
  induction steps with
  | nil => rfl
  | cons step steps ih => rw [inside_cons, FailedStep.isRetryable_around, ih]

lemma suggestion?_inside (steps : List FailedStep) :
    (root.inside steps).suggestion? = root.suggestion? := by
  induction steps with
  | nil => rfl
  | cons step steps ih => rw [inside_cons, FailedStep.suggestion?_around, ih]

lemma message_inside (steps : List FailedStep) :
    (root.inside steps).message = String.join (steps.map FailedStep.text) ++ root.message := by
  induction steps with
  | nil => simp [inside]
  | cons step steps ih =>
    rw [inside_cons, FailedStep.message_around, ih, List.map_cons, String.join_cons,
      String.append_assoc]

/-- An error without a cause is reached after as many causes as there are steps around it. -/
lemma causeAfter?_inside_iff (innermost : root.cause? = none) (steps : List FailedStep) (n : Nat) :
    (root.inside steps).causeAfter? n = some root ↔ n = steps.length := by
  induction steps generalizing n with
  | nil => cases n <;> simp [inside, causeAfter?, innermost]
  | cons step steps ih =>
    cases n with
    | zero =>
      have caused : step.around (root.inside steps) ≠ root := by
        intro same
        rw [← same, FailedStep.cause?_around] at innermost
        cases innermost
      simp [causeAfter?, caused]
    | succ n => simp [causeAfter?, ih]

/-- However many failed steps stand around an error without a cause, they hand on whether a retry
may help and what to do, their causes lead down to it one by one, and their message is what is said
of the steps, from the outside in, and then the message of the error itself. -/
theorem inside_hides_nothing (steps : List FailedStep) (innermost : root.cause? = none) :
    (root.inside steps).isRetryable = root.isRetryable ∧
      (root.inside steps).suggestion? = root.suggestion? ∧
      (∀ n, (root.inside steps).causeAfter? n = some root ↔ n = steps.length) ∧
      (root.inside steps).message =
        String.join (steps.map FailedStep.text) ++ root.message :=
  ⟨isRetryable_inside steps, suggestion?_inside steps, causeAfter?_inside_iff innermost steps,
    message_inside steps⟩

/-- A transaction that could not be begun, inside of every other step. -/
theorem inside_hides_nothing_nested :
    let root : DbError := .timeout "connection pool acquire" 30
    let e := rollbackFailed none (commitFailed (rollbackFailed (some "prv_1_sp_2")
      (savepointFailed "prv_1_sp_2" (beginFailed root))))
    root.cause? = none ∧ e.isRetryable = true ∧ e.suggestion? = none ∧
      e.causeAfter? 5 = some root ∧
      e.message = "Failed to roll back: Failed to commit transaction: " ++
        "Failed to roll back to savepoint 'prv_1_sp_2': " ++
        "Failed to create savepoint 'prv_1_sp_2': Failed to begin transaction: " ++
        "Timeout: connection pool acquire exceeded 30s" := by
  intro root e
  obtain ⟨retryable, suggestion, causes, message⟩ := @inside_hides_nothing root
    [.rollback none, .commit, .rollback (some "prv_1_sp_2"), .savepoint "prv_1_sp_2", .begin] rfl
  exact ⟨rfl, retryable, suggestion, (causes 5).2 rfl, message.trans (by decide +kernel)⟩

end NestedTx.DbError
