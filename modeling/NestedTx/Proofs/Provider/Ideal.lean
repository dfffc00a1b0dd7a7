import NestedTx.Proofs.Provider.Backend

/-!
# Ideal nested units of work

In the ideal, a unit of work in progress has its data and, for each level that was entered in it,
the data that were there when the level was entered. Entering remembers the data, a commit forgets
them, and a rollback goes back to them. There are no names and no stale savepoints, and a step that
fails does nothing.
-/

namespace NestedTx

/-- A unit of work in progress: its data, and the data with which each level inside it was entered,
the innermost first. -/
structure Work (δ : Type) where
  data : δ
  saved : List δ
  deriving Repr, DecidableEq

/-- The durable data, and the unit of work in progress, if there is one. -/
structure Ideal (δ : Type) where
  durable : δ
  work : Option (Work δ)
  deriving Repr, DecidableEq

/-- The work after going back to a level, which stays open. -/
def Work.backTo {δ : Type} (w : Work δ) (level : Nat) : Work δ :=
  match w.saved.drop (w.saved.length - level) with
  | [] => w
  | d :: saved => ⟨d, d :: saved⟩

namespace Ideal

open Provider

variable {δ : Type}

def visible (i : Ideal δ) : δ :=
  match i.work with
  | none => i.durable
  | some w => w.data

def setVisible (i : Ideal δ) (d : δ) : Ideal δ :=
  match i.work with
  | none => { i with durable := d }
  | some w => { i with work := some { w with data := d } }

/-- The data with which a level was entered. -/
def savedAt? (i : Ideal δ) (level : Nat) : Option δ :=
  i.work.bind fun w => (w.saved.drop (w.saved.length - level)).head?

/-- Does an operation depend on the database? Leaving a nested level does not. -/
def fallible (i : Ideal δ) : Operation → Bool
  | .enter _ => true
  | .commit => i.work.any (·.saved.isEmpty)
  | .rollback => i.work.isSome
  | .rollbackTo level => i.work.any fun w => decide (1 ≤ level ∧ level ≤ w.saved.length)
  | _ => false

/-- What an operation other than a statement does if nothing fails. -/
def step? (i : Ideal δ) : Operation → Option (Answer × Ideal δ)
  | .enter _ =>
    match i.work with
    | none => some (.level (.ok 0), ⟨i.durable, some ⟨i.durable, []⟩⟩)
    | some w =>
      some (.level (.ok (w.saved.length + 1)), ⟨i.durable, some ⟨w.data, w.data :: w.saved⟩⟩)
  | .commit =>
    match i.work with
    | none => some (.done (.error .noActiveTransaction), i)
    | some ⟨data, []⟩ => some (.done (.ok ()), ⟨data, none⟩)
    | some ⟨data, _ :: saved⟩ => some (.done (.ok ()), ⟨i.durable, some ⟨data, saved⟩⟩)
  | .rollback =>
    match i.work with
    | none => some (.done (.error .noActiveTransaction), i)
    | some ⟨_, []⟩ => some (.done (.ok ()), ⟨i.durable, none⟩)
    | some ⟨_, d :: saved⟩ => some (.done (.ok ()), ⟨i.durable, some ⟨d, saved⟩⟩)
  | .rollbackTo level =>
    match i.work with
    | none => some (.done (.error .noActiveTransaction), i)
    | some w =>
      if level = 0 then
        some (.done (.error (.invalidInput
          "Level 0 has no savepoint; use rollback() to undo the whole transaction")), i)
      else if w.saved.length < level then some (.done (.ok ()), i)
      else some (.done (.ok ()), ⟨i.durable, some (w.backTo level)⟩)
  | .close => some (.over, ⟨i.durable, none⟩)
  | .drop => some (.over, ⟨i.durable, none⟩)
  | .execute _ => none
  | .query _ => none

lemma step?_rollbackTo_passed {d : δ} {w : Work δ} {level : Nat} (h : w.saved.length < level) :
    step? ⟨d, some w⟩ (.rollbackTo level) = some (.done (.ok ()), ⟨d, some w⟩) := by
  have h0 : level ≠ 0 := Nat.ne_zero_of_lt h
  simp only [step?, h0, h, ↓reduceIte]

lemma step?_rollbackTo {d : δ} {w : Work δ} {level : Nat} (h1 : 1 ≤ level)
    (h : level ≤ w.saved.length) :
    step? ⟨d, some w⟩ (.rollbackTo level) = some (.done (.ok ()), ⟨d, some (w.backTo level)⟩) := by
  have h0 : level ≠ 0 := Nat.ne_of_gt h1
  simp only [step?, h0, Nat.not_lt.2 h, ↓reduceIte]

/-- An operation with its answer, and whether the database failed in it. A statement does what its
effects say, or it fails and does nothing. -/
inductive Step (effects : Effects δ) (i : Ideal δ) : Operation → Bool → Answer → Ideal δ → Prop
  | done {op : Operation} {a : Answer} {i' : Ideal δ} (h : i.step? op = some (a, i')) :
      Step effects i op false a i'
  | failed {op : Operation} (h : i.fallible op = true) (e : DbError) :
      Step effects i op true (op.failure e) i
  | executed {st : Statement} {r : DbResult ExecuteResult} {d : δ}
      (h : effects.execute st i.visible r d) :
      Step effects i (.execute st) (!r.isOk) (.executed r) (i.setVisible d)
  | notExecuted (st : Statement) (e : DbError) :
      Step effects i (.execute st) true (.executed (.error e)) i
  | queried {st : Statement} {r : DbResult Rows} {d : δ} (h : effects.query st i.visible r d) :
      Step effects i (.query st) (!r.isOk) (.queried r) (i.setVisible d)
  | notQueried (st : Statement) (e : DbError) :
      Step effects i (.query st) true (.queried (.error e)) i

/-- What is seen of a step: the operation, whether the database failed in it, the answer, and the
data afterwards, as a statement would meet them and as they would survive a crash. -/
structure Observation (δ : Type) where
  operation : Operation
  failed : Bool
  answer : Answer
  visible : Option δ
  durable : δ

/-- What can be seen of the ideal, and where that leads. -/
inductive Run (effects : Effects δ) (i₀ : Ideal δ) : List (Observation δ) → Ideal δ → Prop
  | start : Run effects i₀ [] i₀
  | step {seen : List (Observation δ)} {i i' : Ideal δ} {op : Operation} {failed : Bool}
      {a : Answer} (run : Run effects i₀ seen i) (step : Step effects i op failed a i') :
      Run effects i₀ (seen ++ [⟨op, failed, a, some i'.visible, i'.durable⟩]) i'

end Ideal

end NestedTx
