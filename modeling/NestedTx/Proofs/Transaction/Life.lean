import NestedTx.Proofs.Transaction.Operation

/-!
# The life of a transaction

A transaction lives from the attempt to begin it on a connection until it is dropped. In between any
operations are made on it, in any order and with any replies. The connection is kept while the
transaction is in progress. It goes back to its pool behind the statement that finishes the
transaction, and is closed if there is no such statement. A finished transaction refuses everything.
-/

namespace NestedTx

open Dialogue

namespace Transaction

/-- An operation that was made. -/
structure Turn where
  transaction : Transaction
  operation : Operation
  calls : List ConnectionExchange
  answer : Answer
  next : Transaction

/-- The calls on a connection since a transaction was to begin on it, the operations made on the
transaction, and the transaction, unless it could not begin or was dropped. -/
inductive Life (c : ConnectionId) :
    List ConnectionExchange → List Turn → Option Transaction → Prop
  | refused {l : List ConnectionExchange} {e : DbError} (course : Course (begin c) l (.error e)) :
      Life c l [] none
  | begun {l : List ConnectionExchange} {t : Transaction} (course : Course (begin c) l (.ok t)) :
      Life c l [] (some t)
  | turn {l m : List ConnectionExchange} {turns : List Turn} {t t' : Transaction} {op : Operation}
      {a : Answer} (life : Life c l turns (some t)) (course : Course (t.perform op) m (a, t')) :
      Life c (l ++ m) (turns ++ [⟨t, op, m, a, t'⟩]) (some t')
  | dropped {l m : List ConnectionExchange} {turns : List Turn} {t t' : Transaction}
      (life : Life c l turns (some t)) (course : Course t.discard m t') : Life c (l ++ m) turns none

/-- The transaction began. -/
def Began (c : ConnectionId) (l : List ConnectionExchange) : Prop :=
  ∃ r, l.head? = some ⟨.execute c ⟨"BEGIN", []⟩, .ok r⟩

/-- A commit or a rollback sent its statement, which succeeded. -/
def Ended (c : ConnectionId) (turns : List Turn) : Prop :=
  ∃ u ∈ turns, ∃ sql r, u.operation.final? = some sql ∧
    ⟨.execute c ⟨sql, []⟩, .ok r⟩ ∈ u.calls

/-- The connection of a transaction: held, given back to its pool, or closed. -/
inductive Custody (c : ConnectionId) (turns : List Turn) :
    List ConnectionExchange → Option Transaction → Prop
  | held {l : List ConnectionExchange} (began : Began c l) (still : ¬ Ended c turns)
      (sent : ∀ x ∈ l, x.1.IsStatementOn c) : Custody c turns l (some ⟨some c⟩)
  | released {l : List ConnectionExchange} {last : Option Transaction} (began : Began c l)
      (ended : Ended c turns) (sent : ∀ x ∈ l, x.1.IsStatementOn c)
      (finished : ∀ t ∈ last, t = ⟨none⟩) : Custody c turns (l ++ [⟨.release c, ()⟩]) last
  | closed {l : List ConnectionExchange}
      (never : ¬ (Began c (l ++ [⟨.close c, ()⟩]) ∧ Ended c turns))
      (sent : ∀ x ∈ l, x.1.IsStatementOn c) : Custody c turns (l ++ [⟨.close c, ()⟩]) none

variable {c : ConnectionId} {l m : List ConnectionExchange} {turns : List Turn}
  {t t' : Transaction} {last : Option Transaction} {op : Operation} {a : Answer}

lemma Began.append (h : Began c l) (m : List ConnectionExchange) : Began c (l ++ m) := by
  obtain ⟨r, hr⟩ := h
  exact ⟨r, by rw [List.head?_append, hr, Option.some_or]⟩

lemma ended_concat_iff {u : Turn} :
    Ended c (turns ++ [u]) ↔ Ended c turns ∨ ∃ sql r, u.operation.final? = some sql ∧
      ⟨.execute c ⟨sql, []⟩, .ok r⟩ ∈ u.calls := by
  simp only [Ended, List.mem_append, List.mem_singleton, or_and_right, exists_or, exists_eq_left]

/-- A commit or a rollback whose statement succeeds ends the transaction. -/
lemma ended_concat_final {sql : String} {r : ExecuteResult} (final : op.final? = some sql) :
    Ended c (turns ++
      [⟨t, op, [⟨.execute c ⟨sql, []⟩, .ok r⟩, ⟨.release c, ()⟩], a, t'⟩]) :=
  ended_concat_iff.2 (.inr ⟨sql, r, final, List.mem_cons_self⟩)

lemma course_begin_iff {r : DbResult Transaction} :
    Course (begin c) l r ↔
      (∃ w, l = [⟨.execute c ⟨"BEGIN", []⟩, .ok w⟩] ∧ r = .ok ⟨some c⟩) ∨
        ∃ e, l = [⟨.execute c ⟨"BEGIN", []⟩, .error e⟩, ⟨.close c, ()⟩] ∧ r = .error e := by
  constructor
  · intro h
    obtain ⟨w | w, l, rfl, hw⟩ := course_ask_iff.1 h
    · obtain ⟨⟨⟩, l, rfl, hd⟩ := course_ask_iff.1 hw
      cases hd
      exact .inr ⟨w, rfl, rfl⟩
    · cases hw
      exact .inl ⟨w, rfl, rfl⟩
  · rintro (⟨w, rfl, rfl⟩ | ⟨e, rfl, rfl⟩)
    · exact course_ask_iff.2 ⟨.ok w, [], rfl, .answer _⟩
    · exact course_ask_iff.2 ⟨.error e, _, rfl, course_ask_iff.2 ⟨(), [], rfl, .answer _⟩⟩

lemma course_discard (h : Course t.discard l t') :
    t' = ⟨none⟩ ∧ l = t.connection.elim [] fun c => [⟨.close c, ()⟩] := by
  obtain ⟨_ | c⟩ := t
  · cases h
    exact ⟨rfl, rfl⟩
  · obtain ⟨⟨⟩, l, rfl, hd⟩ := course_ask_iff.1 h
    cases hd
    exact ⟨rfl, rfl⟩

namespace Custody

lemma not_ended_nil : ¬ Ended c [] := by
  rintro ⟨u, none, -⟩
  cases none

lemma begin_ok (h : Course (begin c) l (.ok t)) : Custody c [] l (some t) := by
  obtain ⟨w, rfl, ht⟩ | ⟨e, -, he⟩ := course_begin_iff.1 h
  · cases ht
    exact .held ⟨w, rfl⟩ not_ended_nil (List.forall_mem_singleton.2 rfl)
  · cases he

lemma begin_error {e : DbError} (h : Course (begin c) l (.error e)) : Custody c [] l none := by
  obtain ⟨w, -, ht⟩ | ⟨e, rfl, -⟩ := course_begin_iff.1 h
  · cases ht
  · exact @closed _ _ [_] (fun both => not_ended_nil both.2) (List.forall_mem_singleton.2 rfl)

/-- The connection is kept by an operation that sends statements and does not finish. -/
lemma keep (h : Custody c turns l (some ⟨some c⟩)) (sent : ∀ x ∈ m, x.1.IsStatementOn c)
    (still : ∀ sql r, op.final? = some sql → ⟨.execute c ⟨sql, []⟩, .ok r⟩ ∉ m) :
    Custody c (turns ++ [⟨⟨some c⟩, op, m, a, ⟨some c⟩⟩]) (l ++ m) (some ⟨some c⟩) := by
  cases h with
  | held began before sent' =>
    refine .held (began.append m) ?_ (List.forall_mem_append.2 ⟨sent', sent⟩)
    rw [ended_concat_iff]
    rintro (ended | ⟨sql, r, final, made⟩)
    · exact before ended
    · exact still sql r final made
  | released _ _ _ finished => cases finished _ rfl

/-- An operation that is made on a transaction keeps the connection or gives it back. -/
lemma turn (h : Custody c turns l (some t)) (move : t.Move op m a t') :
    Custody c (turns ++ [⟨t, op, m, a, t'⟩]) (l ++ m) (some t') := by
  have whole := h
  cases h with
  | held began still sent =>
    cases move with
    | refused _ => exact whole.keep (List.forall_mem_nil _) (fun _ _ _ => List.not_mem_nil)
    | executed held s r =>
      cases held
      exact whole.keep (List.forall_mem_singleton.2 rfl) (fun _ _ final => by cases final)
    | queried held s r =>
      cases held
      exact whole.keep (List.forall_mem_singleton.2 rfl) (fun _ _ final => by cases final)
    | marked held about _ r =>
      cases held
      refine whole.keep (List.forall_mem_singleton.2 rfl) (fun _ _ final => ?_)
      cases op <;> simp_all [Operation.savepoint?, Operation.final?]
    | failed held final e =>
      cases held
      refine whole.keep (List.forall_mem_singleton.2 rfl) (fun _ _ _ made => ?_)
      cases List.mem_singleton.1 made
    | @ended _ _ sql held final r =>
      cases held
      rw [List.append_cons l]
      exact .released (began.append _) (ended_concat_final final)
        (List.forall_mem_append.2 ⟨sent, List.forall_mem_singleton.2 rfl⟩)
        (fun t ht => (Option.mem_some.1 ht).symm)
  | released began ended sent finished =>
    -- after the end there is nothing to send on, and every operation is refused
    obtain rfl := finished t rfl
    obtain ⟨rfl, -, rfl⟩ := move.of_finished rfl
    rw [List.append_nil]
    exact .released began (ended_concat_iff.2 (.inl ended)) sent finished

lemma drop (h : Custody c turns l (some t)) (course : Course t.discard m t') :
    Custody c turns (l ++ m) none := by
  obtain ⟨-, rfl⟩ := course_discard course
  cases h with
  | held began still sent => exact .closed (fun both => still both.2) sent
  | released began ended sent finished =>
    obtain rfl := finished t rfl
    rw [Option.elim_none, List.append_nil]
    exact .released began ended sent (fun t ht => by cases ht)

end Custody

lemma Life.custody (life : Life c l turns last) : Custody c turns l last := by
  induction life with
  | refused course => exact .begin_error course
  | begun course => exact .begin_ok course
  | turn _ course ih => exact ih.turn (.of_course course)
  | dropped _ course ih => exact ih.drop course

lemma Life.finished (life : Life c l turns (some t)) (ended : Ended c turns) :
    t.connection = none := by
  cases life.custody with
  | held _ still _ => exact absurd ended still
  | released _ _ _ finished =>
    obtain rfl := finished t rfl
    rfl

/-- What becomes of the connection of a transaction. Only statements are sent on it, until it meets
its fate, which is the last that is heard of it. It goes back to its pool just if the transaction
began and a commit or a rollback succeeded. If not, it is closed when the transaction is over. Until
then the transaction holds it, and whether a commit or a rollback succeeds or fails, it leaves the
connection to its pool or to the transaction, which can try again. -/
theorem connection_disposed (life : Life c l turns last) :
    ∃ sent fate, l = sent ++ fate ∧ (∀ x ∈ sent, x.1.IsStatementOn c) ∧
      (fate = [⟨.release c, ()⟩] ↔ Began c l ∧ Ended c turns) ∧
      (last = none → ¬ (Began c l ∧ Ended c turns) → fate = [⟨.close c, ()⟩]) ∧
      ∀ t, last = some t → ¬ Ended c turns → fate = [] ∧ t.connection = some c ∧
        ∀ op sql, op.final? = some sql →
          (∀ e, Course (t.perform op) [⟨.execute c ⟨sql, []⟩, .error e⟩] (.done (.error e), t)) ∧
          ∀ r, Course (t.perform op) [⟨.execute c ⟨sql, []⟩, .ok r⟩, ⟨.release c, ()⟩]
            (.done (.ok ()), ⟨none⟩) := by
  cases life.custody with
  | held began still sent =>
    refine ⟨l, [], (List.append_nil l).symm, sent, ?_, nofun, ?_⟩
    · simp [still]
    · rintro _ ⟨⟩ -
      exact ⟨rfl, rfl, fun op sql final =>
        ⟨course_final_error rfl op final, course_final_ok rfl op final⟩⟩
  | released began ended sent finished =>
    exact ⟨_, _, rfl, sent, iff_of_true rfl ⟨began.append _, ended⟩,
      fun _ never => absurd ⟨began.append _, ended⟩ never, fun _ _ still => absurd ended still⟩
  | closed never sent =>
    refine ⟨_, _, rfl, sent, iff_of_false ?_ never, fun _ _ => rfl, nofun⟩
    simp

/-- A commit that takes too long, and a rollback after it. -/
theorem connection_disposed_retried :
    ∃ (l : List ConnectionExchange) (turns : List Turn),
      Life ⟨0⟩ l turns none ∧ Began ⟨0⟩ l ∧ Ended ⟨0⟩ turns ∧
      ∃ sent fate, l = sent ++ fate ∧ sent.map Sigma.fst =
        [.execute ⟨0⟩ ⟨"BEGIN", []⟩, .execute ⟨0⟩ ⟨"COMMIT", []⟩, .execute ⟨0⟩ ⟨"ROLLBACK", []⟩] ∧
        fate = [⟨.release ⟨0⟩, ()⟩] := by
  have life : Life ⟨0⟩ _ [] _ := .begun (course_begin_iff.2 (.inl ⟨⟨0, none⟩, rfl, rfl⟩))
  have life := life.turn
    (course_final_error rfl .commit rfl (.timeout "statement execution" 30))
  have life := life.turn (course_final_ok rfl .rollback rfl ⟨0, none⟩)
  have life := life.dropped (.answer _)
  obtain ⟨sent, fate, whole, -, back, -⟩ := connection_disposed life
  obtain rfl := back.2 ⟨⟨_, rfl⟩, ended_concat_final rfl⟩
  have sent_eq : [_, _, _] = sent := List.append_cancel_right whole
  exact ⟨_, _, life, ⟨_, rfl⟩, ended_concat_final rfl, sent, _, whole, sent_eq ▸ rfl, rfl⟩

/-! ### Finished transactions -/

/-- Once a commit or a rollback has succeeded, every operation is over at once, without a call, and
leaves the transaction finished. It fails because there is no transaction, unless it is about a
savepoint with a bad name: then that is what it fails for. -/
theorem finished_refuses (life : Life c l turns (some t)) (ended : Ended c turns)
    (op : Operation) :
    t.isFinished = true ∧
      t.perform op = .answer (op.failure (op.badName?.getD .noActiveTransaction), t) ∧
      ∀ e, op.badName? = some e ↔
        ∃ name sql, op.savepoint? = some (name, sql) ∧ Savepoint.validate name = .error e := by
  have finished := life.finished ended
  refine ⟨?_, perform_of_finished finished, fun e => badName?_eq_some_iff⟩
  rw [isFinished, finished]
  rfl

/-- A rollback after a commit. -/
theorem finished_refuses_committed :
    ∃ (l : List ConnectionExchange) (turns : List Turn) (t : Transaction),
      Life ⟨0⟩ l turns (some t) ∧ Ended ⟨0⟩ turns ∧
      t.perform .rollback = .answer (.done (.error .noActiveTransaction), t) := by
  have life : Life ⟨0⟩ _ [] _ := .begun (course_begin_iff.2 (.inl ⟨⟨0, none⟩, rfl, rfl⟩))
  have life := life.turn (course_final_ok rfl .commit rfl ⟨0, none⟩)
  obtain ⟨-, refused, -⟩ := finished_refuses life (ended_concat_final rfl) .rollback
  exact ⟨_, _, _, life, ended_concat_final rfl, refused⟩

/-- A savepoint with a bad name after a commit: the name is what it fails for. -/
theorem finished_blames_name :
    ∃ (l : List ConnectionExchange) (turns : List Turn) (t : Transaction) (text : String),
      Life ⟨0⟩ l turns (some t) ∧ Ended ⟨0⟩ turns ∧
      t.perform (.savepoint "1sp") = .answer (.done (.error (.invalidInput text)), t) := by
  have life : Life ⟨0⟩ _ [] _ := .begun (course_begin_iff.2 (.inl ⟨⟨0, none⟩, rfl, rfl⟩))
  have life := life.turn (course_final_ok rfl .commit rfl ⟨0, none⟩)
  exact ⟨_, _, _, _, life, ended_concat_final rfl, rfl⟩

end Transaction

end NestedTx
