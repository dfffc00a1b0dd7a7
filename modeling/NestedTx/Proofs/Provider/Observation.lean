import NestedTx.Proofs.Provider.Protocol

/-!
# What a provider shows

A provider can be asked for its depth, its state, what is known of its transaction and where
statements run. It answers from three fields that are set apart from one another, so that it could
have a depth without a transaction, or a transaction without a time. After any history the answers
agree with one another, and with what the calls of the history say: which transaction was begun and
not ended since, and at which time the enter was called that began it.
-/

namespace NestedTx

open Dialogue

namespace Provider

/-- What a provider shows while it has no transaction. -/
structure ShowsIdle (p : Provider) : Prop where
  inTransaction : p.inTransaction = false
  depth : p.depth = 0
  state : p.state = .idle
  transactionInfo? : p.transactionInfo? = none
  route : p.route = .resource p.resource

/-- What a provider shows inside a transaction that was begun at a time. -/
structure ShowsOpen (p : Provider) (t : TransactionId) (startedAt : Nat) : Prop where
  inTransaction : p.inTransaction = true
  state : p.state = if p.depth = 0 then .outermost else .nested p.depth
  transactionInfo? : p.transactionInfo? = some ⟨p.id, p.depth, startedAt⟩
  route : p.route = .transaction t

/-- The fields of a provider go together: without a transaction there is neither a level nor a time,
and with one there is a time. -/
inductive Coherent (p : Provider) : Prop
  | idle (transaction : p.transaction = none) (depth : p.depth = 0) (time : p.startedAt? = none)
  | inside {t : TransactionId} {startedAt : Nat} (transaction : p.transaction = some t)
      (time : p.startedAt? = some startedAt)

variable {p q : Provider} {op : Operation} {calls : List CallExchange} {a : Answer}
  {t : TransactionId} {startedAt : Nat}

lemma showsIdle_of_idle (transaction : p.transaction = none) (depth : p.depth = 0)
    (time : p.startedAt? = none) : p.ShowsIdle := by
  constructor
  · simp [inTransaction, transaction]
  · exact depth
  · simp [state, transaction]
  · simp [transactionInfo?, time]
  · simp [route, transaction]

lemma showsOpen_of_inside (transaction : p.transaction = some t)
    (time : p.startedAt? = some startedAt) : p.ShowsOpen t startedAt := by
  constructor
  · simp [inTransaction, transaction]
  · cases depth : p.depth <;> simp [state, transaction, depth]
  · simp [transactionInfo?, transaction, time]
  · simp [route, transaction]

/-! ### What an operation makes of a transaction -/

/-- What becomes of the fields of a provider. Only a call that was carried out ends a transaction,
and only the depth changes before that. -/
inductive Change (p : Provider) : Operation → List CallExchange → Provider → Prop
  | same {op : Operation} {calls : List CallExchange}
      (going : ∀ x ∈ carriedOut calls, ∀ t, ¬x.1.Ends t) : Change p op calls p
  | begun {now : Nat} {t : TransactionId} (h : p.transaction = none) :
      Change p (.enter now) [⟨.begin p.resource, .ok t⟩] (p.begun t now)
  | moved {t : TransactionId} {op : Operation} {calls : List CallExchange} {depth : Nat}
      (h : p.transaction = some t) (going : ∀ x ∈ carriedOut calls, ¬x.1.Ends t) :
      Change p op calls (p.atDepth depth)
  | ended {t : TransactionId} {op : Operation} {calls : List CallExchange} {x : CallExchange}
      (h : p.transaction = some t) (hx : x ∈ carriedOut calls) (ends : x.1.Ends t) :
      Change p op calls p.finished

lemma Move.change (move : p.Move op calls a q) : Change p op calls q := by
  have nothing : ∀ x ∈ carriedOut [], ∀ t, ¬x.1.Ends t := List.forall_mem_nil _
  -- a call that is alone in its turn is the only one to look at
  have one {x : CallExchange} {P : CallExchange → Prop} (h : P x) : ∀ y ∈ carriedOut [x], P y := by
    intro y hy
    obtain rfl := List.mem_singleton.1 (List.mem_filter.1 hy).1
    exact h
  cases move with
  | refused _ | passed _ _ | dropped _ => exact .same nothing
  | @failed _ x _ _ _ hx =>
    apply Change.same
    rw [carriedOut_failed (by rw [CallExchange.failed, hx]; rfl)]
    exact nothing
  | executed _ _ | queried _ _ | closed _ => exact .same (one fun _ ends => ends)
  | begun h => exact .begun h
  | left h _ => exact .moved h (List.forall_mem_nil _)
  | entered h | undone h _ | returned h _ _ => exact .moved h (one fun ends => ends)
  | committed h _ | rolledBack h _ | abandoned h | discarded h =>
    exact .ended h List.mem_cons_self rfl

/-- The three fields are set together wherever one of them is. -/
lemma Change.coherent (change : Change p op calls q) (coherent : p.Coherent) : q.Coherent := by
  cases change with
  | same _ => exact coherent
  | begun _ => exact .inside rfl rfl
  | moved h _ =>
    -- a change of depth is for a provider in a transaction, which has its time already
    cases coherent with
    | idle transaction _ _ => cases transaction.symm.trans h
    | inside transaction time => exact .inside transaction time
  | ended _ _ _ => exact .idle rfl rfl rfl

lemma Move.fields_of_begun {r : ResourceId} {now : Nat}
    (move : p.Move (.enter now) [⟨.begin r, .ok t⟩] a q) :
    q.transaction = some t ∧ q.startedAt? = some now := by
  cases move with
  | begun h => exact ⟨rfl, rfl⟩
  | failed h hx => cases hx

/-! ### What a history says -/

variable {σ : Type} {Step : σ → CallExchange → σ → Prop} {id : String} {r : ResourceId} {s₀ s : σ}
  {history since : List (Turn σ)}

lemma Run.coherent (run : Run Step (Provider.new id r) s₀ history p s) : p.Coherent := by
  induction run with
  | start => exact .idle rfl rfl rfl
  | turn run course path ih => exact (Move.of_course course).change.coherent ih

/-- An enter at that time began the transaction, and none of the calls carried out in the turns
since then has ended it. -/
def Ongoing (r : ResourceId) (history : List (Turn σ)) (t : TransactionId) (startedAt : Nat)
    (since : List (Turn σ)) : Prop :=
  ∃ before u, history = before ++ u :: since ∧ u.operation = .enter startedAt ∧
    u.calls = [⟨.begin r, .ok t⟩] ∧ ∀ x ∈ performed since, ¬x.1.Ends t

lemma Ongoing.concat {u : Turn σ} (h : Ongoing r history t startedAt since)
    (hu : ∀ x ∈ carriedOut u.calls, ¬x.1.Ends t) :
    Ongoing r (history ++ [u]) t startedAt (since ++ [u]) := by
  obtain ⟨before, v, rfl, enter, begun, going⟩ := h
  refine ⟨before, v, by simp, enter, begun, ?_⟩
  rw [performed_append, performed_singleton]
  exact List.forall_mem_append.2 ⟨going, hu⟩

/-- The history of a provider inside a transaction says so. -/
lemma Run.exists_ongoing (run : Run Step (Provider.new id r) s₀ history p s)
    (h : p.transaction = some t) : ∃ startedAt since, Ongoing r history t startedAt since := by
  induction run with
  | start => cases h
  | @turn history p q s s' op calls a run course path ih =>
    have change := (Move.of_course course).change
    -- a transaction is begun in this turn, or it is that of the history before, which no call of
    -- this turn has ended
    cases change with
    | same going =>
      obtain ⟨startedAt, since, ongoing⟩ := ih h
      exact ⟨startedAt, _, ongoing.concat fun x hx => going x hx t⟩
    | begun _ =>
      cases h
      refine ⟨_, [], history, _, rfl, rfl, ?_, List.forall_mem_nil _⟩
      rw [show p.resource = r from run.resource_eq]
    | moved inside going =>
      cases inside.symm.trans h
      obtain ⟨startedAt, since, ongoing⟩ := ih inside
      exact ⟨startedAt, _, ongoing.concat going⟩
    | ended _ _ _ => cases h

lemma Ongoing.of_append {first later : List (Turn σ)}
    (h : Ongoing r history t startedAt (first ++ later)) :
    ∃ earlier, history = earlier ++ later ∧ Ongoing r earlier t startedAt first ∧
      ∀ x ∈ performed later, ¬x.1.Ends t := by
  obtain ⟨before, v, rfl, enter, begun, going⟩ := h
  rw [performed_append] at going
  obtain ⟨goingFirst, goingLater⟩ := List.forall_mem_append.1 going
  exact ⟨before ++ v :: first, by simp, ⟨before, v, rfl, enter, begun, goingFirst⟩, goingLater⟩

/-- A provider has the transaction that the history says is going on, and the time of its beginning. -/
lemma Run.fields_of_ongoing (run : Run Step (Provider.new id r) s₀ history p s)
    (ongoing : Ongoing r history t startedAt since) :
    p.transaction = some t ∧ p.startedAt? = some startedAt := by
  -- the turns since the beginning are taken off one by one, from the last
  induction since using List.reverseRecOn generalizing history p s with
  | nil =>
    obtain ⟨before, u, rfl, enter, begun, -⟩ := ongoing
    obtain ⟨-, move, -, rfl, -⟩ := run.of_concat
    rw [enter, begun] at move
    exact move.fields_of_begun
  | append_singleton since v ih =>
    obtain ⟨earlier, rfl, ongoing, going⟩ := ongoing.of_append
    obtain ⟨first, move, -, rfl, -⟩ := run.of_concat
    obtain ⟨transaction, time⟩ := ih first ongoing
    rw [performed_singleton] at going
    have change := move.change
    generalize v.next = after, v.operation = op, v.calls = calls at change going
    -- no other enter can have begun one meanwhile, and no ending was carried out
    cases change with
    | same _ => exact ⟨transaction, time⟩
    | begun h => cases transaction.symm.trans h
    | moved _ _ => exact ⟨transaction, time⟩
    | ended h hx ends =>
      cases transaction.symm.trans h
      exact absurd ends (going _ hx)

lemma Run.showsOpen (run : Run Step (Provider.new id r) s₀ history p s)
    (ongoing : Ongoing r history t startedAt since) : p.ShowsOpen t startedAt := by
  obtain ⟨transaction, time⟩ := run.fields_of_ongoing ongoing
  exact showsOpen_of_inside transaction time

/-- The observers of a provider agree with one another and with its history. Whatever is replied, a
provider shows that it has no transaction unless the calls of its history say that one was begun and
not ended since. Then it shows that transaction, with its own id and depth and with the time of the
enter that began it, now and at every moment since. -/
theorem observers_agree (run : Run Step (Provider.new id r) s₀ history p s) :
    p.id = id ∧ p.resource = r ∧
    ((∀ t startedAt since, ¬Ongoing r history t startedAt since) → p.ShowsIdle) ∧
    ∀ t startedAt since, Ongoing r history t startedAt since →
      p.ShowsOpen t startedAt ∧ ∀ u ∈ since, u.provider.ShowsOpen t startedAt := by
  refine ⟨run.id_eq, run.resource_eq, ?idle, ?inside⟩
  case idle =>
    intro none
    cases run.coherent with
    | idle transaction depth time => exact showsIdle_of_idle transaction depth time
    | inside transaction _ =>
      obtain ⟨startedAt, since, ongoing⟩ := run.exists_ongoing transaction
      exact absurd ongoing (none _ _ _)
  case inside =>
    intro t startedAt since ongoing
    refine ⟨run.showsOpen ongoing, ?_⟩
    -- a moment since then is the end of a shorter history that says the same
    intro u hu
    obtain ⟨first, later, rfl⟩ := List.append_of_mem hu
    obtain ⟨earlier, rfl, ongoing, -⟩ := ongoing.of_append
    exact run.of_append_cons.1.showsOpen ongoing

/-- A transaction that is abandoned, and a second one in which a level is entered and a rollback
fails. -/
theorem observers_agree_reopened :
    ∃ (history : List (Turn Unit)) (p : Provider),
      Run (fun _ _ _ => True) (Provider.new "prv_1" ⟨0⟩) () history p () ∧
      history.map (·.operation) = [.enter 20, .close, .enter 40, .enter 60, .rollback] ∧
      p.ShowsOpen ⟨8⟩ 40 ∧ p.transactionInfo? = some ⟨"prv_1", 1, 40⟩ := by
  have run : Run (fun (_ : Unit) _ _ => True) (Provider.new "prv_1" ⟨0⟩) () [] _ _ := .start
  have run := run.turn (@Move.begun _ 20 ⟨7⟩ rfl).course (.cons trivial (.nil ()))
  have run := run.turn (@Move.abandoned _ ⟨7⟩ rfl).course
    (@Path.cons _ _ _ _ () () () _ _ trivial (.cons trivial (.nil ())))
  have run := run.turn (@Move.begun _ 40 ⟨8⟩ rfl).course (.cons trivial (.nil ()))
  have run := run.turn (@Move.entered _ 60 ⟨8⟩ rfl).course (.cons trivial (.nil ()))
  have run := run.turn
    (@Move.failed _ .rollback
      ⟨.rollbackTo ⟨8⟩ "prv_1_sp_1", .error (.timeout "statement execution" 30)⟩ _ _ rfl
      rfl).course (.cons trivial (.nil ()))
  obtain ⟨-, -, -, inside⟩ := observers_agree run
  have notEnded : ¬Call.Ends ⟨8⟩ (.savepoint ⟨8⟩ "prv_1_sp_1") := fun ends => ends
  obtain ⟨shows, -⟩ := inside ⟨8⟩ 40 [_, _]
    ⟨[_, _], _, rfl, rfl, rfl, List.forall_mem_singleton.2 notEnded⟩
  exact ⟨_, _, run, rfl, shows, shows.transactionInfo?⟩

end Provider

end NestedTx
