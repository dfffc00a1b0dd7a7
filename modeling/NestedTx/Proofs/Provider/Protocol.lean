import Mathlib.Order.Nat
import NestedTx.Proofs.Provider.Operation
import NestedTx.Proofs.Provider.Standing

/-!
# The protocol of calls

Whatever a resource replies, the calls that it carries out for a provider are calls outside of
transactions and whole transactions, one after another, and perhaps a last one that is not finished.
A statement runs where the transaction is, a savepoint is set for the next level, and a rollback to
a savepoint finds one that was set in the same transaction and has been spared since.
-/

namespace NestedTx

open Dialogue

namespace Call

/-- Is it a call on the resource that has nothing to do with transactions? -/
def Outside (r : ResourceId) : Call → Prop
  | .execute route _ => route = .resource r
  | .query route _ => route = .resource r
  | .close r' => r' = r
  | _ => False

def Within (t : TransactionId) : Call → Prop
  | .execute route _ => route = .transaction t
  | .query route _ => route = .transaction t
  | .savepoint t' _ => t' = t
  | .rollbackTo t' _ => t' = t
  | _ => False

def Ends (t : TransactionId) : Call → Prop
  | .commit t' => t' = t
  | .rollback t' => t' = t
  | .discard t' => t' = t
  | _ => False

/-- Is it a call within a transaction that spares the savepoint of a level? Only a rollback to a
lower level does not. -/
def Spares (id : String) (t : TransactionId) (k : Nat) : Call → Prop
  | .execute route _ => route = .transaction t
  | .query route _ => route = .transaction t
  | .savepoint t' name => t' = t ∧ ∃ j, k < j ∧ name = Savepoint.name id j
  | .rollbackTo t' name => t' = t ∧ ∃ j, k ≤ j ∧ name = Savepoint.name id j
  | _ => False

def isBegin : Call → Bool
  | .begin _ => true
  | _ => false

def isEnding : Call → Bool
  | .commit _ | .rollback _ | .discard _ => true
  | _ => false

end Call

/-- The calls that were carried out. -/
def carriedOut (l : List CallExchange) : List CallExchange :=
  l.filter (!·.failed)

@[simp] lemma carriedOut_nil : carriedOut [] = [] := rfl

@[simp] lemma carriedOut_append (l l' : List CallExchange) :
    carriedOut (l ++ l') = carriedOut l ++ carriedOut l' :=
  List.filter_append l l'

lemma carriedOut_failed {x : CallExchange} (h : x.failed = true) : carriedOut [x] = [] := by
  simp [carriedOut, h]

lemma carriedOut_ok {x : CallExchange} (h : ¬ x.failed = true) : carriedOut [x] = [x] := by
  simp [carriedOut, h]

/-! ### Orderly calls -/

/-- Calls carried out in order, and the transaction that is open after them. -/
inductive Orderly (r : ResourceId) : List CallExchange → Option TransactionId → Prop
  | start : Orderly r [] none
  | outside {l : List CallExchange} {x : CallExchange} (h : Orderly r l none)
      (hx : x.1.Outside r) : Orderly r (l ++ [x]) none
  | begun {l : List CallExchange} (h : Orderly r l none) (t : TransactionId) :
      Orderly r (l ++ [⟨.begin r, .ok t⟩]) (some t)
  | within {l : List CallExchange} {x : CallExchange} {t : TransactionId}
      (h : Orderly r l (some t)) (hx : x.1.Within t) : Orderly r (l ++ [x]) (some t)
  | ended {l : List CallExchange} {x : CallExchange} {t : TransactionId}
      (h : Orderly r l (some t)) (hx : x.1.Ends t) : Orderly r (l ++ [x]) none

/-- One call outside of transactions, or one whole transaction. -/
inductive Block (r : ResourceId) : List CallExchange → Prop
  | outside {x : CallExchange} (hx : x.1.Outside r) : Block r [x]
  | transaction {t : TransactionId} {body : List CallExchange} {ending : CallExchange}
      (hbody : ∀ x ∈ body, x.1.Within t) (hend : ending.1.Ends t) :
      Block r (⟨.begin r, .ok t⟩ :: (body ++ [ending]))

/-- The calls of a transaction that is not finished, or none. -/
def Unfinished (r : ResourceId) : Option TransactionId → List CallExchange → Prop
  | none, l => l = []
  | some t, l => ∃ body, l = ⟨.begin r, .ok t⟩ :: body ∧ ∀ x ∈ body, x.1.Within t

namespace Orderly

variable {r : ResourceId} {l l' : List CallExchange} {current : Option TransactionId}

/-- Orderly calls are blocks, and perhaps a transaction that is not finished. -/
lemma blocks (h : Orderly r l current) :
    ∃ blocks rest, l = List.flatten blocks ++ rest ∧ (∀ b ∈ blocks, Block r b) ∧
      Unfinished r current rest := by
  -- the transaction that is not finished is kept apart, and becomes a block when it ends
  induction h with
  | start => exact ⟨[], [], rfl, List.forall_mem_nil _, rfl⟩
  | @outside l x h hx ih =>
    obtain ⟨blocks, rest, rfl, hb, rfl⟩ := ih
    refine ⟨blocks ++ [[x]], [], by simp, ?_, rfl⟩
    exact List.forall_mem_append.2 ⟨hb, List.forall_mem_singleton.2 (.outside hx)⟩
  | begun h t ih =>
    obtain ⟨blocks, rest, rfl, hb, rfl⟩ := ih
    exact ⟨blocks, [_], by simp, hb, [], rfl, List.forall_mem_nil _⟩
  | @within l x t h hx ih =>
    obtain ⟨blocks, _, rfl, hb, body, rfl, hbody⟩ := ih
    refine ⟨blocks, _, List.append_assoc _ _ _, hb, body ++ [x], rfl, ?_⟩
    exact List.forall_mem_append.2 ⟨hbody, List.forall_mem_singleton.2 hx⟩
  | @ended l x t h hx ih =>
    obtain ⟨blocks, _, rfl, hb, body, rfl, hbody⟩ := ih
    -- what was unfinished is a whole transaction now
    refine ⟨blocks ++ [⟨.begin r, .ok t⟩ :: (body ++ [x])], [], by simp, ?_, rfl⟩
    exact List.forall_mem_append.2 ⟨hb, List.forall_mem_singleton.2 (.transaction hbody hx)⟩

lemma of_prefix (h : Orderly r l current) (hl : l' <+: l) : ∃ earlier, Orderly r l' earlier := by
  -- each rule adds one call, so a prefix is the whole list or one of what was there before
  induction h with
  | start =>
    obtain rfl := List.prefix_nil.1 hl
    exact ⟨none, .start⟩
  | outside h hx ih =>
    cases List.prefix_concat_iff.1 hl with
    | inl whole => exact ⟨none, whole ▸ .outside h hx⟩
    | inr part => exact ih part
  | begun h t ih =>
    cases List.prefix_concat_iff.1 hl with
    | inl whole => exact ⟨some t, whole ▸ .begun h t⟩
    | inr part => exact ih part
  | @within l x t h hx ih =>
    cases List.prefix_concat_iff.1 hl with
    | inl whole => exact ⟨some t, whole ▸ .within h hx⟩
    | inr part => exact ih part
  | ended h hx ih =>
    cases List.prefix_concat_iff.1 hl with
    | inl whole => exact ⟨none, whole ▸ .ended h hx⟩
    | inr part => exact ih part

/-- There is one more beginning than there are endings while a transaction is open, and as many
otherwise. -/
lemma balance (h : Orderly r l current) :
    l.countP (·.1.isBegin) = l.countP (·.1.isEnding) + if current.isSome then 1 else 0 := by
  -- an open transaction accounts for the one beginning that has no ending yet
  induction h with
  | start => rfl
  | @outside l x h hx ih =>
    obtain ⟨c, w⟩ := x
    cases c <;> simp_all [Call.Outside, Call.isBegin, Call.isEnding]
  | begun h t ih => simp_all [Call.isBegin, Call.isEnding]
  | @within l x t h hx ih =>
    obtain ⟨c, w⟩ := x
    cases c <;> simp_all [Call.Within, Call.isBegin, Call.isEnding]
  | @ended l x t h hx ih =>
    obtain ⟨c, w⟩ := x
    cases c <;> simp_all [Call.Ends, Call.isBegin, Call.isEnding]

/-! ### An operation goes on in order -/

open Provider

variable {p q : Provider} {op : Operation} {calls : List CallExchange} {a : Answer}

/-- A statement stays where the transaction is. -/
lemma statement (h : Orderly p.resource l (p.transaction)) {x : CallExchange}
    (hx : (∃ st, x.1 = .execute p.route st) ∨ ∃ st, x.1 = .query p.route st) :
    Orderly p.resource (l ++ carriedOut [x]) (p.transaction) := by
  -- a statement that failed is not among the calls that were carried out
  by_cases failed : x.failed = true
  · rw [carriedOut_failed failed, List.append_nil]
    exact h
  · rw [carriedOut_ok failed]
    cases ht : p.transaction with
    | none =>
      rw [ht] at h
      refine .outside h ?_
      obtain ⟨st, hx⟩ | ⟨st, hx⟩ := hx <;> simp [hx, Call.Outside, route, ht]
    | some t =>
      rw [ht] at h
      refine .within h ?_
      obtain ⟨st, hx⟩ | ⟨st, hx⟩ := hx <;> simp [hx, Call.Within, route, ht]

lemma move (h : Orderly p.resource l (p.transaction))
    (move : p.Move op calls a q) :
    Orderly q.resource (l ++ carriedOut calls) (q.transaction) := by
  rw [move.resource_eq]
  -- what is carried out is in order by the rule for its call; a level that is left and a step
  -- that is refused make none
  cases move with
  | refused _ =>
    rw [carriedOut_nil, List.append_nil]
    exact h
  | failed _ hx =>
    rw [carriedOut_failed (by rw [CallExchange.failed, hx]; rfl), List.append_nil]
    exact h
  | begun ht =>
    rw [ht] at h
    exact .begun h _
  | entered ht =>
    rw [ht] at h
    rw [transaction_atDepth, ht]
    exact .within h rfl
  | committed ht h0 =>
    rw [ht] at h
    exact .ended h rfl
  | left ht hn =>
    rw [carriedOut_nil, List.append_nil]
    exact h
  | rolledBack ht h0 =>
    rw [ht] at h
    exact .ended h rfl
  | undone ht hn =>
    rw [ht] at h
    rw [transaction_atDepth, ht]
    exact .within h rfl
  | passed ht hl =>
    rw [carriedOut_nil, List.append_nil]
    exact h
  | returned ht h1 hl =>
    rw [ht] at h
    rw [transaction_atDepth, ht]
    exact .within h rfl
  | executed st r => exact h.statement (.inl ⟨st, rfl⟩)
  | queried st r => exact h.statement (.inr ⟨st, rfl⟩)
  | closed ht =>
    rw [ht] at h ⊢
    exact .outside h rfl
  | @abandoned t ht =>
    rw [ht] at h
    -- the discard ends the transaction, and the close is then a call outside of it
    have discarded := Orderly.ended h (x := ⟨.discard t, ()⟩) rfl
    have closed := Orderly.outside discarded (x := ⟨.close p.resource, ()⟩) rfl
    rw [List.append_assoc] at closed
    exact closed
  | dropped ht =>
    rw [carriedOut_nil, List.append_nil]
    exact h
  | discarded ht =>
    rw [ht] at h
    exact .ended h rfl

end Orderly

/-! ### Savepoints that are there -/

/-- The savepoint of a level was set by one of the calls, and all calls since then were made within
its transaction and have spared it. -/
def Live (id : String) (t : TransactionId) (k : Nat) (l : List CallExchange) : Prop :=
  ∃ before since, l = before ++ ⟨.savepoint t (Savepoint.name id k), .ok ()⟩ :: since ∧
    ∀ x ∈ since, x.1.Spares id t k

lemma Live.append {id : String} {t : TransactionId} {k : Nat} {l l' : List CallExchange}
    (h : Live id t k l) (spared : ∀ x ∈ l', x.1.Spares id t k) : Live id t k (l ++ l') := by
  obtain ⟨before, since, rfl, hs⟩ := h
  refine ⟨before, since ++ l', ?_, List.forall_mem_append.2 ⟨hs, spared⟩⟩
  rw [List.append_assoc, List.cons_append]

namespace Provider

variable {p q : Provider} {op : Operation} {calls l : List CallExchange} {a : Answer}

/-- The savepoints of all open levels are there. -/
def AllLive (p : Provider) (l : List CallExchange) : Prop :=
  ∀ t, p.transaction = some t → ∀ k, 1 ≤ k → k ≤ p.depth → Live p.id t k l

lemma AllLive.statement (h : AllLive p l) {x : CallExchange}
    (hx : (∃ st, x.1 = .execute p.route st) ∨ ∃ st, x.1 = .query p.route st) :
    AllLive p (l ++ carriedOut [x]) := by
  intro t ht k h1 hk
  apply (h t ht k h1 hk).append
  intro y hy
  obtain rfl := List.mem_singleton.1 (List.mem_filter.1 hy).1
  obtain ⟨st, hx⟩ | ⟨st, hx⟩ := hx <;> simp [hx, Call.Spares, route, ht]

lemma AllLive.move (h : AllLive p l) (move : p.Move op calls a q) :
    AllLive q (l ++ carriedOut calls) := by
  cases move with
  | refused _ =>
    rw [carriedOut_nil, List.append_nil]
    exact h
  | failed _ hx =>
    rw [carriedOut_failed (by rw [CallExchange.failed, hx]; rfl), List.append_nil]
    exact h
  | begun ht =>
    rintro _ ⟨⟩ k h1 hk
    exact absurd (h1.trans hk) (Nat.not_succ_le_zero 0)
  | @entered now t ht =>
    intro t' ht' k h1 hk
    cases ht.symm.trans ht'
    -- the savepoint of an outer level is spared, and that of the new level is set just now
    cases Nat.lt_or_eq_of_le hk with
    | inl lt =>
      apply (h t ht k h1 (Nat.le_of_lt_succ lt)).append
      intro x hx
      obtain rfl := List.mem_singleton.1 hx
      exact ⟨rfl, p.depth + 1, lt, rfl⟩
    | inr own =>
      subst own
      exact ⟨l, [], rfl, List.forall_mem_nil _⟩
  | @left t n ht hn =>
    intro t' ht' k h1 hk
    rw [carriedOut_nil, List.append_nil]
    exact h t' ht' k h1 (hn ▸ Nat.le_succ_of_le hk)
  | @undone t n ht hn =>
    intro t' ht' k h1 hk
    cases ht.symm.trans ht'
    -- going back to a level spares the savepoints of all levels up to it
    apply (h t ht k h1 (hn ▸ Nat.le_succ_of_le hk)).append
    intro x hx
    obtain rfl := List.mem_singleton.1 hx
    exact ⟨rfl, n + 1, Nat.le_succ_of_le hk, rfl⟩
  | passed ht hl =>
    rw [carriedOut_nil, List.append_nil]
    exact h
  | @returned t level ht h1' hl =>
    intro t' ht' k h1 hk
    cases ht.symm.trans ht'
    -- only the levels up to the one gone back to are still open
    apply (h t ht k h1 (hk.trans hl)).append
    intro x hx
    obtain rfl := List.mem_singleton.1 hx
    exact ⟨rfl, level, hk, rfl⟩
  | executed st r => exact h.statement (.inl ⟨st, rfl⟩)
  | queried st r => exact h.statement (.inr ⟨st, rfl⟩)
  | closed ht =>
    intro t ht'
    rw [ht] at ht'
    cases ht'
  | dropped ht =>
    intro t ht'
    rw [ht] at ht'
    cases ht'
  | _ =>
    intro t ht'
    cases ht'

/-! ### Calls that fit the provider -/

/-- Does a call, carried out or not, fit the provider that makes it after the given calls? -/
def Fits (p : Provider) (l : List CallExchange) : Call → Prop
  | .begin r => r = p.resource ∧ p.transaction = none
  | .commit t => p.transaction = some t ∧ p.depth = 0
  | .rollback t => p.transaction = some t ∧ p.depth = 0
  | .discard t => p.transaction = some t
  | .savepoint t name => p.transaction = some t ∧ name = p.savepointName (p.depth + 1)
  | .rollbackTo t name =>
    ∃ k, p.transaction = some t ∧ name = p.savepointName k ∧ 1 ≤ k ∧ k ≤ p.depth ∧ Live p.id t k l
  | .execute route _ => route = p.transaction.elim (.resource p.resource) (.transaction ·)
  | .query route _ => route = p.transaction.elim (.resource p.resource) (.transaction ·)
  | .close r => r = p.resource
  | .ping _ => False
  | .stats _ => False

lemma route_eq (p : Provider) :
    p.route = p.transaction.elim (.resource p.resource) (.transaction ·) := by
  cases h : p.transaction <;> rw [route, h] <;> rfl

lemma fits_of_control? {c : Call} {wrap : DbError → DbError} (live : AllLive p l)
    (h : p.control? op = some (c, wrap)) : p.Fits l c := by
  cases c with
  | savepoint handle name => exact savepoint_of_control? h
  | rollbackTo t name =>
    obtain ⟨k, ht, rfl, h1, hk, -⟩ := rollbackTo_of_control? h
    exact ⟨k, ht, rfl, h1, hk, live t ht k h1 hk⟩
  | _ =>
    unfold control? at h
    grind [Fits]

lemma Move.fits (move : p.Move op calls a q) (live : AllLive p l) :
    ∀ x ∈ calls, p.Fits l x.1 := by
  cases move with
  | failed h hx => exact List.forall_mem_singleton.2 (fits_of_control? live h)
  | begun h => exact List.forall_mem_singleton.2 ⟨rfl, h⟩
  | entered h => exact List.forall_mem_singleton.2 ⟨h, rfl⟩
  | committed h h0 => exact List.forall_mem_singleton.2 ⟨h, h0⟩
  | rolledBack h h0 => exact List.forall_mem_singleton.2 ⟨h, h0⟩
  | @undone t n h hn =>
    have h1 := Nat.le_add_left 1 n
    exact List.forall_mem_singleton.2
      ⟨n + 1, h, rfl, h1, hn.ge, live t h _ h1 hn.ge⟩
  | @returned t level h h1 hl =>
    exact List.forall_mem_singleton.2 ⟨level, h, rfl, h1, hl, live t h _ h1 hl⟩
  | executed st r => exact List.forall_mem_singleton.2 p.route_eq
  | queried st r => exact List.forall_mem_singleton.2 p.route_eq
  | closed h => exact List.forall_mem_singleton.2 rfl
  | abandoned h =>
    exact List.forall_mem_cons.2 ⟨h, List.forall_mem_singleton.2 rfl⟩
  | discarded h => exact List.forall_mem_singleton.2 h
  | refused _ => exact List.forall_mem_nil _
  | left _ _ => exact List.forall_mem_nil _
  | passed _ _ => exact List.forall_mem_nil _
  | dropped _ => exact List.forall_mem_nil _

/-- Closing gives the transaction up before it closes the resource. -/
lemma Move.calls_close (move : p.Move .close calls a q) :
    calls = (p.transaction.elim [] fun t => [⟨.discard t, ()⟩]) ++
      [⟨.close p.resource, ()⟩] := by
  cases move with
  | closed h =>
    rw [h]
    rfl
  | abandoned h =>
    rw [h]
    rfl
  | refused h => cases h
  | failed h _ => simp [control?] at h

/-- No transaction outlives a close or a drop. -/
lemma Move.over (move : p.Move op calls a q) (h : op = .close ∨ op = .drop) :
    q.transaction = none := by
  cases move with
  | closed idle => exact idle
  | abandoned _ => rfl
  | dropped idle => exact idle
  | discarded _ => rfl
  | refused h' => obtain rfl | rfl := h <;> cases h'
  | failed h' _ => obtain rfl | rfl := h <;> simp [control?] at h'
  | _ => simp at h

/-! ### Runs -/

variable {σ : Type} {Step : σ → CallExchange → σ → Prop} {id : String} {r : ResourceId} {s₀ s : σ}
  {history : List (Turn σ)}

def performed (history : List (Turn σ)) : List CallExchange :=
  carriedOut (history.flatMap (·.calls))

lemma performed_append (history later : List (Turn σ)) :
    performed (history ++ later) = performed history ++ performed later := by
  simp [performed]

lemma performed_singleton (u : Turn σ) : performed [u] = carriedOut u.calls := by
  simp [performed]

lemma performed_concat (history : List (Turn σ)) (u : Turn σ) :
    performed (history ++ [u]) = performed history ++ carriedOut u.calls := by
  simp [performed]

lemma Run.orderly (run : Run Step (Provider.new id r) s₀ history p s) :
    Orderly r (performed history) (p.transaction) := by
  induction run with
  | start => exact .start
  | turn run course path ih =>
    rw [performed_concat]
    -- the rules speak of one resource, and the provider keeps the one it began with
    have same := run.resource_eq
    change _ = r at same
    rw [← same] at ih
    have after := ih.move (Move.of_course course)
    rw [(Run.turn run course path).resource_eq] at after
    exact after

lemma Run.allLive (run : Run Step (Provider.new id r) s₀ history p s) :
    AllLive p (performed history) := by
  induction run with
  | start => rintro _ ⟨⟩
  | turn run course path ih =>
    rw [performed_concat]
    exact ih.move (Move.of_course course)

/-- Whatever is replied, the calls that are carried out for a provider are blocks, one after
another, with at most one transaction unfinished. Begins and endings are balanced at any moment.
Every call fits the provider that makes it; closing gives the transaction up before it closes the
resource; and no transaction outlives a close or a drop. -/
theorem orderly_calls (run : Run Step (Provider.new id r) s₀ history p s) :
    (∃ blocks rest, performed history = List.flatten blocks ++ rest ∧ (∀ b ∈ blocks, Block r b) ∧
      Unfinished r p.transaction rest) ∧
    (performed history).countP (·.1.isBegin)
      = (performed history).countP (·.1.isEnding) + (if p.inTransaction then 1 else 0) ∧
    (∀ l, l <+: performed history → l.countP (·.1.isEnding) ≤ l.countP (·.1.isBegin) ∧
      l.countP (·.1.isBegin) ≤ l.countP (·.1.isEnding) + 1) ∧
    ∀ before u after, history = before ++ u :: after →
      (∀ x ∈ u.calls, u.provider.Fits (performed before) x.1) ∧
      (u.operation = .close → u.calls =
        (u.provider.transaction.elim [] fun t => [⟨.discard t, ()⟩]) ++ [⟨.close r, ()⟩]) ∧
      (u.operation = .close ∨ u.operation = .drop → u.next.transaction = none) := by
  have orderly := run.orderly
  refine ⟨orderly.blocks, ?_, ?_, ?_⟩
  · exact orderly.balance
  -- a prefix of orderly calls is orderly, and is balanced for the same reason
  · intro l hl
    obtain ⟨current, part⟩ := orderly.of_prefix hl
    rw [part.balance]
    split <;> omega
  -- the calls of a turn are met by the provider that the turns before it have led to
  · rintro before u after rfl
    obtain ⟨earlier, move⟩ := run.of_append_cons
    refine ⟨move.fits earlier.allLive, ?_, move.over⟩
    intro close
    rw [close] at move
    rw [move.calls_close, earlier.resource_eq]
    rfl

/-- A transaction with a savepoint, a rollback that fails, and a close that gives it up. -/
theorem orderly_calls_abandoned :
    ∃ (history : List (Turn Unit)) (p : Provider),
      Run (fun _ _ _ => True) (Provider.new "prv_1" ⟨0⟩) () history p () ∧
      performed history = [⟨.begin ⟨0⟩, .ok ⟨7⟩⟩, ⟨.savepoint ⟨7⟩ "prv_1_sp_1", .ok ()⟩,
        ⟨.discard ⟨7⟩, ()⟩, ⟨.close ⟨0⟩, ()⟩] ∧
      ∃ blocks rest, performed history = List.flatten blocks ++ rest ∧
        (∀ b ∈ blocks, Block ⟨0⟩ b) ∧ rest = [] := by
  have run : Run (fun (_ : Unit) _ _ => True) (Provider.new "prv_1" ⟨0⟩) () [] _ _ := .start
  have run := run.turn (@Move.begun _ 0 ⟨7⟩ rfl).course
    (.cons trivial (.nil ()))
  have run := run.turn (@Move.entered _ 1 ⟨7⟩ rfl).course
    (.cons trivial (.nil ()))
  have run := run.turn
    (@Move.failed _ .rollback
      ⟨.rollbackTo ⟨7⟩ "prv_1_sp_1", .error (.timeout "statement execution" 30)⟩ _ _ rfl
      rfl).course (.cons trivial (.nil ()))
  have run := run.turn (@Move.abandoned _ ⟨7⟩ rfl).course
    (@Path.cons _ _ _ _ () () () _ _ trivial (.cons trivial (.nil ())))
  obtain ⟨orderly, -⟩ := orderly_calls run
  exact ⟨_, _, run, rfl, orderly⟩

end Provider

end NestedTx
