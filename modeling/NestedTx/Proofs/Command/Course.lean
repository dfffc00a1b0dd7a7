import NestedTx.Command.Check
import NestedTx.Proofs.Provider.Operation
import NestedTx.Proofs.Registration.World

/-!
# Courses of a check

The exchanges that the parts of a check of a database can go through, with the answers they lead to.
The two units of work that are entered and rolled back have one way to succeed; a call that fails is
the last of its kind, and a transaction that is still open is given up then.
-/

namespace NestedTx

open Dialogue

/-! ### Calls of resources at the host -/

/-- A call of a resource with its reply, seen by the host. -/
def CallExchange.onHost (x : CallExchange) : HostExchange :=
  ⟨.resource x.1, x.2⟩

lemma course_onHost_iff {α : Type} {d : ResourceDialogue α} {l : List HostExchange} {a : α} :
    Course d.onHost l a ↔
      ∃ m : List CallExchange, Course d m a ∧ l = m.map CallExchange.onHost := by
  induction d generalizing l with
  | answer b =>
    refine course_answer_iff.trans ⟨?_, ?_⟩
    · rintro ⟨rfl, rfl⟩
      exact ⟨[], .answer _, rfl⟩
    · rintro ⟨m, course, rfl⟩
      obtain ⟨rfl, rfl⟩ := course_answer_iff.1 course
      exact ⟨rfl, rfl⟩
  | ask call next ih =>
    refine course_ask_iff.trans ⟨?_, ?_⟩
    · rintro ⟨w, _, rfl, rest⟩
      obtain ⟨m, asked, rfl⟩ := (ih w).1 rest
      exact ⟨⟨call, w⟩ :: m, course_ask_iff.2 ⟨w, m, rfl, asked⟩, rfl⟩
    · rintro ⟨m, course, rfl⟩
      obtain ⟨w, m, rfl, asked⟩ := course_ask_iff.1 course
      exact ⟨w, _, rfl, (ih w).2 ⟨m, asked, rfl⟩⟩

namespace Command

variable {id name : String} {r : ResourceId}

/-- The exchanges in which nothing is connected to. -/
def Unconnected (l : List HostExchange) : Prop :=
  ∀ x ∈ l, ∀ config, x.1 ≠ .connect config

lemma checkDatabase_of_refused {t : Target} {n : Nat} {refusal : ConnectionConfig.Refusal}
    (h : t.config n = .error refusal) :
    checkDatabase t n = .answer (Report.failed t.name refusal.message) := by
  rw [checkDatabase, h]
  rfl

lemma course_providerFor_iff {l : List HostExchange} {result : DbResult Provider} :
    Course (providerFor name) l result ↔
      (∃ e, l = [⟨.lookup name, .error e⟩] ∧ result = .error e) ∨
        ∃ r id, l = [⟨.lookup name, .ok r⟩, ⟨.freshId, id⟩] ∧ result = .ok (Provider.new id r) := by
  constructor
  · intro course
    obtain ⟨found, rest, rfl, looked⟩ := course_ask_iff.1 course
    cases found with
    | error e =>
      obtain ⟨rfl, rfl⟩ := course_answer_iff.1 looked
      exact .inl ⟨e, rfl, rfl⟩
    | ok r =>
      obtain ⟨id, rest, rfl, made⟩ := course_ask_iff.1 looked
      obtain ⟨rfl, rfl⟩ := course_answer_iff.1 made
      exact .inr ⟨r, id, rfl, rfl⟩
  · rintro (⟨e, rfl, rfl⟩ | ⟨r, id, rfl, rfl⟩)
    · exact .ask _ (.answer _)
    · exact .ask _ (.ask _ (.answer _))

/-! ### Two units of work -/

/-- The ways in which two units of work can be entered and rolled back on an idle provider. -/
inductive Probe (id : String) (r : ResourceId) : List CallExchange → DbResult Nesting → Prop
  | unbegun (e : DbError) : Probe id r [⟨.begin r, .error e⟩] (.error (.beginFailed e))
  | unentered (t : TransactionId) (e : DbError) :
      Probe id r
        [⟨.begin r, .ok t⟩, ⟨.savepoint t (Savepoint.name id 1), .error e⟩, ⟨.discard t, ()⟩]
        (.error (.savepointFailed (Savepoint.name id 1) e))
  | kept (t : TransactionId) (e : DbError) :
      Probe id r
        [⟨.begin r, .ok t⟩, ⟨.savepoint t (Savepoint.name id 1), .ok ()⟩,
          ⟨.rollbackTo t (Savepoint.name id 1), .error e⟩, ⟨.discard t, ()⟩]
        (.error (.rollbackFailed (some (Savepoint.name id 1)) e))
  | unended (t : TransactionId) (e : DbError) :
      Probe id r
        [⟨.begin r, .ok t⟩, ⟨.savepoint t (Savepoint.name id 1), .ok ()⟩,
          ⟨.rollbackTo t (Savepoint.name id 1), .ok ()⟩, ⟨.rollback t, .error e⟩, ⟨.discard t, ()⟩]
        (.error (.rollbackFailed none e))
  | undone (t : TransactionId) :
      Probe id r
        [⟨.begin r, .ok t⟩, ⟨.savepoint t (Savepoint.name id 1), .ok ()⟩,
          ⟨.rollbackTo t (Savepoint.name id 1), .ok ()⟩, ⟨.rollback t, .ok ()⟩]
        (.ok ⟨[0, 1], .idle⟩)

lemma Probe.of_course {l : List CallExchange} {now : Nat} {result : DbResult Nesting}
    (course : Course (probeNesting (Provider.new id r) now) l result) : Probe id r l result := by
  obtain ⟨begun, l, rfl, inside⟩ := course_ask_iff.1 course
  cases begun with
  | error e =>
    obtain ⟨rfl, rfl⟩ := course_answer_iff.1 inside
    exact .unbegun e
  | ok t =>
    obtain ⟨entered, l, rfl, deeper⟩ := course_ask_iff.1 inside
    cases entered with
    | error e =>
      obtain ⟨⟨⟩, l, rfl, last⟩ := course_ask_iff.1 deeper
      obtain ⟨rfl, rfl⟩ := course_answer_iff.1 last
      exact .unentered t e
    | ok u =>
      obtain ⟨left, l, rfl, outer⟩ := course_ask_iff.1 deeper
      cases left with
      | error e =>
        obtain ⟨⟨⟩, l, rfl, last⟩ := course_ask_iff.1 outer
        obtain ⟨rfl, rfl⟩ := course_answer_iff.1 last
        exact .kept t e
      | ok u =>
        obtain ⟨undone, l, rfl, rest⟩ := course_ask_iff.1 outer
        cases undone with
        | error e =>
          obtain ⟨⟨⟩, l, rfl, last⟩ := course_ask_iff.1 rest
          obtain ⟨rfl, rfl⟩ := course_answer_iff.1 last
          exact .unended t e
        | ok u =>
          obtain ⟨rfl, rfl⟩ := course_answer_iff.1 rest
          exact .undone t

end Command

end NestedTx
