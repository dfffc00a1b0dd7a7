import Mathlib.Logic.Function.Basic
import NestedTx.Server.Snapshot
import NestedTx.Proofs.Provider.Operation

/-!
# Backends with snapshots

A backend holds durable data, and for each transaction in progress a working copy with the snapshots
that were taken of it. `BEGIN` opens a copy, a savepoint takes a snapshot, rolling back to a name
restores the newest snapshot of that name, drops the later ones and keeps it, a commit publishes the
copy, and a rollback drops it. Any call may fail. A call that fails has no effect, except for those
calls of which the backend leaves in doubt whether they were carried out.
-/

namespace NestedTx

open Dialogue

variable {δ : Type}

/-- What a backend holds for a transaction: its working copy of the data, and the snapshots of it by
name, the newest first. -/
structure Copy (δ : Type) where
  data : δ
  snapshots : List (String × δ)
  deriving Repr, DecidableEq

namespace Copy

def savepoint (policy : NameReuse) (name : String) (c : Copy δ) : Copy δ :=
  ⟨c.data, (name, c.data) :: Session.reuse policy (·.1) name c.snapshots⟩

/-- The copy after rolling back to the newest snapshot of a name, if there is one. -/
def rollbackTo? (name : String) (c : Copy δ) : Option (Copy δ) :=
  match c.snapshots.dropWhile (·.1 != name) with
  | [] => none
  | (n, d) :: older => some ⟨d, (n, d) :: older⟩

lemma snapshots_of_rollbackTo? {name : String} {c c' : Copy δ} (h : c.rollbackTo? name = some c') :
    c'.snapshots = c.snapshots.dropWhile (·.1 != name) ∧
      ∃ older, c'.snapshots = (name, c'.data) :: older := by
  have found := List.head?_dropWhile_not (fun x : String × δ => x.1 != name) c.snapshots
  rw [rollbackTo?] at h
  split at h
  · cases h
  · rename_i n d older hs
    cases h
    rw [hs] at found ⊢
    obtain rfl : n = name := by simpa using found
    exact ⟨rfl, older, rfl⟩

end Copy

/-- How statements act on the data, whatever they reply. -/
structure Effects (δ : Type) where
  execute : Statement → δ → DbResult ExecuteResult → δ → Prop
  query : Statement → δ → DbResult Rows → δ → Prop

/-- The data of a backend: what is durable, and the copies of the transactions in progress. -/
structure Stored (δ : Type) where
  durable : δ
  copies : TransactionId → Option (Copy δ)

namespace Stored

def put (s : Stored δ) (t : TransactionId) (c : Option (Copy δ)) : Stored δ :=
  { s with copies := Function.update s.copies t c }

@[simp] lemma durable_put (s : Stored δ) (t : TransactionId) (c : Option (Copy δ)) :
    (s.put t c).durable = s.durable := rfl

@[simp] lemma copies_put_self (s : Stored δ) (t : TransactionId) (c : Option (Copy δ)) :
    (s.put t c).copies t = c := by simp [put]

/-- A relation between the copies in two backends is kept when related copies are put into both. -/
lemma copies_put_related {R : Option (Copy δ) → Option (Copy δ) → Prop} {s s' : Stored δ}
    (related : ∀ k, R (s.copies k) (s'.copies k)) (t : TransactionId) {c c' : Option (Copy δ)}
    (h : R c c') (k : TransactionId) : R ((s.put t c).copies k) ((s'.put t c').copies k) := by
  by_cases hk : k = t
  · subst hk
    rwa [copies_put_self, copies_put_self]
  · simp only [put, Function.update_of_ne hk]
    exact related k

/-- The data that a statement meets. -/
def dataAt? (s : Stored δ) : Route → Option δ
  | .resource _ => some s.durable
  | .transaction t => (s.copies t).map (·.data)

def setDataAt (s : Stored δ) : Route → δ → Stored δ
  | .resource _, d => { s with durable := d }
  | .transaction t, d => s.put t ((s.copies t).map fun c => { c with data := d })

/-- What becomes of the data when a call on a transaction is carried out. -/
def carryOut? (policy : NameReuse) (s : Stored δ) : Call → Option (Stored δ)
  | .commit t => (s.copies t).map fun c => { s.put t none with durable := c.data }
  | .rollback t => (s.copies t).map fun _ => s.put t none
  | .savepoint t name => (s.copies t).map fun c => s.put t (some (c.savepoint policy name))
  | .rollbackTo t name =>
    ((s.copies t).bind (·.rollbackTo? name)).map fun c => s.put t (some c)
  | _ => none

/-- The steps of a backend. The calls that fail in doubt may have been carried out all the same. -/
inductive Step (policy : NameReuse) (doubt : Call → Prop) (effects : Effects δ) :
    Stored δ → CallExchange → Stored δ → Prop
  | begun {s : Stored δ} {r : ResourceId} {t : TransactionId} (fresh : s.copies t = none) :
      Step policy doubt effects s ⟨.begin r, .ok t⟩ (s.put t (some ⟨s.durable, []⟩))
  | carried {s s' : Stored δ} {x : CallExchange} (ok : x.result = .ok ())
      (h : s.carryOut? policy x.1 = some s') : Step policy doubt effects s x s'
  | failed {s : Stored δ} {x : CallExchange} {e : DbError} (error : x.result = .error e) :
      Step policy doubt effects s x s
  | doubtful {s s' : Stored δ} {x : CallExchange} {e : DbError} (error : x.result = .error e)
      (inDoubt : doubt x.1) (h : s.carryOut? policy x.1 = some s') :
      Step policy doubt effects s x s'
  | discarded {s : Stored δ} {t : TransactionId} :
      Step policy doubt effects s ⟨.discard t, ()⟩ (s.put t none)
  | executed {s : Stored δ} {route : Route} {st : Statement} {r : DbResult ExecuteResult}
      {d d' : δ} (met : s.dataAt? route = some d) (h : effects.execute st d r d') :
      Step policy doubt effects s ⟨.execute route st, r⟩ (s.setDataAt route d')
  | queried {s : Stored δ} {route : Route} {st : Statement} {r : DbResult Rows}
      {d d' : δ} (met : s.dataAt? route = some d) (h : effects.query st d r d') :
      Step policy doubt effects s ⟨.query route st, r⟩ (s.setDataAt route d')
  | closed {s : Stored δ} {r : ResourceId} : Step policy doubt effects s ⟨.close r, ()⟩ s

/-! ### What a call does -/

variable {policy : NameReuse} {doubt : Call → Prop} {effects : Effects δ} {s s' : Stored δ}

lemma step_begin_ok {r : ResourceId} {t : TransactionId}
    (h : Step policy doubt effects s ⟨.begin r, .ok t⟩ s') :
    s.copies t = none ∧ s' = s.put t (some ⟨s.durable, []⟩) := by
  cases h with
  | begun fresh => exact ⟨fresh, rfl⟩
  | carried _ h => cases h
  | failed error => cases error
  | doubtful error => cases error

/-- A step between levels that is reported done is carried out. -/
lemma carryOut_of_step_ok {c : Call} {w : c.Reply} (h : Step policy doubt effects s ⟨c, w⟩ s')
    (ok : CallExchange.result ⟨c, w⟩ = .ok ()) (hc : c.isStep = true) :
    s.carryOut? policy c = some s' := by
  cases h with
  | carried _ h => exact h
  | failed error =>
    rw [ok] at error
    cases error
  | doubtful error =>
    rw [ok] at error
    cases error
  | begun | discarded | executed | queried | closed => cases hc

lemma step_error {x : CallExchange} {e : DbError} (h : Step policy doubt effects s x s')
    (error : x.result = .error e) (hc : x.1.isStatement = false) :
    s' = s ∨ doubt x.1 ∧ s.carryOut? policy x.1 = some s' := by
  cases h with
  | failed => exact .inl rfl
  | doubtful _ inDoubt h => exact .inr ⟨inDoubt, h⟩
  | carried ok =>
    rw [error] at ok
    cases ok
  | begun | discarded | closed => cases error
  | executed | queried => cases hc

lemma step_discard {t : TransactionId} (h : Step policy doubt effects s ⟨.discard t, ()⟩ s') :
    s' = s.put t none := by
  cases h with
  | discarded => rfl
  | carried _ h => cases h
  | failed error => cases error
  | doubtful error => cases error

lemma step_close {r : ResourceId} (h : Step policy doubt effects s ⟨.close r, ()⟩ s') :
    s' = s := by
  cases h with
  | closed => rfl
  | carried _ h => cases h
  | failed error => cases error
  | doubtful error => cases error

/-- A statement has an effect on the data it meets, or it fails without any. -/
lemma step_execute {route : Route} {st : Statement} {r : DbResult ExecuteResult}
    (h : Step policy doubt effects s ⟨.execute route st, r⟩ s') :
    (∃ d d', s.dataAt? route = some d ∧ effects.execute st d r d' ∧ s' = s.setDataAt route d') ∨
      (∃ e, r = .error e) ∧ s' = s := by
  cases h with
  | executed met h => exact .inl ⟨_, _, met, h, rfl⟩
  | carried _ h => cases h
  | doubtful _ _ h => cases h
  | failed error =>
    cases r with
    | error e => exact .inr ⟨⟨e, rfl⟩, rfl⟩
    | ok _ => cases error

lemma step_query {route : Route} {st : Statement} {r : DbResult Rows}
    (h : Step policy doubt effects s ⟨.query route st, r⟩ s') :
    (∃ d d', s.dataAt? route = some d ∧ effects.query st d r d' ∧ s' = s.setDataAt route d') ∨
      (∃ e, r = .error e) ∧ s' = s := by
  cases h with
  | queried met h => exact .inl ⟨_, _, met, h, rfl⟩
  | carried _ h => cases h
  | doubtful _ _ h => cases h
  | failed error =>
    cases r with
    | error e => exact .inr ⟨⟨e, rfl⟩, rfl⟩
    | ok _ => cases error

end Stored

/-- Whatever replies to calls and holds its data like this. -/
structure Backend (δ : Type) (policy : NameReuse) (doubt : Call → Prop) where
  State : Type
  stored : State → Stored δ
  effects : Effects δ
  Step : State → CallExchange → State → Prop
  sound : ∀ {s x s'}, Step s x s' → Stored.Step policy doubt effects (stored s) x (stored s')

/-- The backend that may take every step. -/
def Backend.free (policy : NameReuse) (doubt : Call → Prop) (effects : Effects δ) :
    Backend δ policy doubt where
  State := Stored δ
  stored s := s
  effects := effects
  Step := Stored.Step policy doubt effects
  sound step := step

end NestedTx
