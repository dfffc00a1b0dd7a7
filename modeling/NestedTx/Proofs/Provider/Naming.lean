import NestedTx.Proofs.Provider.Operation
import NestedTx.Proofs.Savepoint
import NestedTx.Proofs.Transaction.Operation
import NestedTx.Proofs.Wire.Uuid

/-!
# Names that providers make up

A provider names the savepoint of a level for its id and the level. With an id of the form that is
made up for providers, every such name is an identifier, and short enough for every kind of server.
So a transaction never refuses a call of a provider for the name in it.
-/

namespace NestedTx

open Dialogue

/-- The name of the savepoint that a call is about. -/
def Call.savepoint? : Call → Option String
  | .savepoint _ name | .rollbackTo _ name => some name
  | _ => none

/-- The reply to a call about a savepoint is what a transaction gives back for it after some
exchanges on its connection. -/
def CallExchange.By (t : Transaction) : CallExchange → List ConnectionExchange → Prop
  | ⟨.savepoint _ name, w⟩, l => Course (t.savepoint name) l w
  | ⟨.rollbackTo _ name, w⟩, l => Course (t.rollbackTo name) l w
  | _, _ => False

namespace Provider

variable {p q : Provider} {op : Operation} {calls : List CallExchange} {a : Answer}

/-! ### Ids that are made up -/

/-- Is it a word and 32 lower-case hexadecimal digits? -/
def IsGenerated (id : String) : Prop :=
  ∃ digits : List Char, id = "prv_" ++ String.ofList digits ∧ digits.length = 32 ∧
    ∀ c ∈ digits, c.isDigit = true ∨ 'a' ≤ c ∧ c ≤ 'f'

lemma isDigit_or_of_mem_hexOfBytes {bs : List UInt8} {c : Char} (h : c ∈ Text.hexOfBytes bs) :
    c.isDigit = true ∨ 'a' ≤ c ∧ c ≤ 'f' := by
  have digit {n : Nat} (hn : n < 16) : (Text.hexLower n).isDigit = true ∨
      'a' ≤ Text.hexLower n ∧ Text.hexLower n ≤ 'f' := by
    decide +revert
  obtain ⟨b, -, hc⟩ := List.mem_flatMap.1 h
  obtain ⟨high, low⟩ := Wire.halves_lt b
  obtain rfl | rfl := List.mem_pair.1 hc
  · exact digit high
  · exact digit low

lemma isGenerated_idOf (number : Nat) : IsGenerated (idOf number) := by
  refine ⟨_, rfl, ?_, fun c => isDigit_or_of_mem_hexOfBytes⟩
  rw [Wire.length_hexOfBytes, Wire.bigOfNat, List.length_reverse, Wire.length_littleOfNat]

namespace IsGenerated

variable {id : String}

lemma length (h : IsGenerated id) : id.toList.length = 36 := by
  obtain ⟨digits, rfl, length, -⟩ := h
  simp only [String.toList_append, String.toList_ofList, List.length_append, length]
  rfl

lemma isValid (h : IsGenerated id) : Savepoint.isValid id.toList = true := by
  obtain ⟨digits, rfl, -, hex⟩ := h
  have plain : digits.all Savepoint.inName = true := by
    refine List.all_eq_true.2 fun c hc => ?_
    obtain digit | ⟨above, below⟩ := hex c hc
    · exact Savepoint.inName_of_isDigit digit
    · apply Savepoint.inName_of_startsName
      have letter : c.isLower = true :=
        Bool.and_eq_true_iff.2
          ⟨decide_eq_true above, decide_eq_true (below.trans (by decide))⟩
      have alpha : c.isAlpha = true := Bool.or_eq_true_iff.2 (.inr letter)
      rw [Savepoint.startsName, alpha, Bool.true_or]
  simp only [String.toList_append, String.toList_ofList]
  exact plain

end IsGenerated

/-! ### Names in calls -/

lemma name_of_control? {c : Call} {wrap : DbError → DbError} (h : p.control? op = some (c, wrap))
    {name : String} (hc : c.savepoint? = some name) :
    ∃ level ≤ p.depth + 1, name = p.savepointName level := by
  cases c with
  | savepoint handle n =>
    obtain ⟨-, rfl⟩ := savepoint_of_control? h
    exact ⟨p.depth + 1, Nat.le_refl _, (Option.some.inj hc).symm⟩
  | rollbackTo handle n =>
    obtain ⟨k, -, rfl, -, hk, -⟩ := rollbackTo_of_control? h
    exact ⟨k, Nat.le_succ_of_le hk, (Option.some.inj hc).symm⟩
  | _ => cases hc

/-- A call about a savepoint names it for the provider that makes the call, and for a level at most
one deeper than the provider is. -/
lemma Move.name_of_mem (move : p.Move op calls a q) {x : CallExchange} (hx : x ∈ calls)
    {name : String} (h : x.1.savepoint? = some name) :
    ∃ level ≤ p.depth + 1, name = p.savepointName level := by
  cases move with
  | failed needed _ =>
    obtain rfl := List.mem_singleton.1 hx
    exact name_of_control? needed h
  | @entered _ t ht =>
    obtain rfl := List.mem_singleton.1 hx
    exact ⟨p.depth + 1, Nat.le_refl _, (Option.some.inj h).symm⟩
  | @undone t n ht hn =>
    obtain rfl := List.mem_singleton.1 hx
    exact ⟨n + 1, hn ▸ Nat.le_succ _, (Option.some.inj h).symm⟩
  | @returned t level ht _ hl =>
    obtain rfl := List.mem_singleton.1 hx
    exact ⟨level, Nat.le_succ_of_le hl, (Option.some.inj h).symm⟩
  | begun _ | committed _ _ | rolledBack _ _ | discarded _ | executed _ _ | queried _ _
  | closed _ =>
    obtain rfl := List.mem_singleton.1 hx
    cases h
  | abandoned _ =>
    rcases List.mem_pair.1 hx with rfl | rfl
    · cases h
    · cases h
  | refused _ | left _ _ | passed _ _ | dropped _ => cases hx

end Provider

/-! ### Calls that a transaction carries out -/

namespace Transaction

variable {t : Transaction} {sql name : String} {l : List ConnectionExchange} {e : DbError}

/-- A statement fails if there is no transaction, or on the connection. -/
lemma course_control_error (h : Course (t.control sql) l (.error e)) :
    t.connection = none ∧ l = [] ∧ e = .noActiveTransaction ∨
      ∃ c, t.connection = some c ∧ l = [⟨.execute c ⟨sql, []⟩, .error e⟩] := by
  cases ht : t.connection with
  | none =>
    simp only [control, ht] at h
    cases h
    exact .inl ⟨rfl, rfl, rfl⟩
  | some c =>
    simp only [control, ht] at h
    obtain ⟨w | w, l, rfl, hw⟩ := course_ask_iff.1 h
    · cases hw
      exact .inr ⟨c, rfl, rfl⟩
    · cases hw

lemma aboutSavepoint_of_isValid (h : Savepoint.isValid name.toList = true)
    (statement : String → String) :
    t.aboutSavepoint statement name = t.control (statement name) := by
  rw [aboutSavepoint, Savepoint.validate_of_isValid h]

end Transaction

/-- A transaction does not refuse an identifier. A call that is about one fails if the transaction
is over, or on the connection. -/
lemma CallExchange.By.error {t : Transaction} {x : CallExchange} {l : List ConnectionExchange}
    {name : String} {e : DbError} (h : x.By t l) (hx : x.1.savepoint? = some name)
    (valid : Savepoint.isValid name.toList = true) (failed : x.result = .error e) :
    t.connection = none ∧ l = [] ∧ e = .noActiveTransaction ∨
      ∃ c sql, t.connection = some c ∧ l = [⟨.execute c ⟨sql, []⟩, .error e⟩] := by
  have out {sql : String} (course : Course (t.control sql) l (.error e)) :
      t.connection = none ∧ l = [] ∧ e = .noActiveTransaction ∨
        ∃ c sql, t.connection = some c ∧ l = [⟨.execute c ⟨sql, []⟩, .error e⟩] :=
    (Transaction.course_control_error course).imp_right fun ⟨c, held, made⟩ => ⟨c, sql, held, made⟩
  obtain ⟨c, w⟩ := x
  cases c with
  | savepoint handle name' =>
    cases hx
    cases failed
    rw [CallExchange.By, Transaction.savepoint, Transaction.aboutSavepoint_of_isValid valid] at h
    exact out h
  | rollbackTo handle name' =>
    cases hx
    cases failed
    rw [CallExchange.By, Transaction.rollbackTo, Transaction.aboutSavepoint_of_isValid valid] at h
    exact out h
  | _ => cases hx

namespace Provider

/-- The names that a provider makes up can be used. Behind an id of the form that is made up, the
name of each level is an identifier of at most 63 bytes. No two names are the same, unless they are
those of one level and of ids that are the same. And whatever a provider does, a call about a
savepoint names one of its levels, and a transaction does not refuse it for the name: it fails only
if the transaction is over, or with what went wrong with its one statement on the connection. -/
theorem names_usable (p : Provider) (generated : IsGenerated p.id) :
    (∀ level, level < 2 ^ 64 → Savepoint.validate (p.savepointName level) = .ok () ∧
      (p.savepointName level).utf8ByteSize ≤ 63) ∧
    (∀ (q q' : Provider) (m n : Nat),
      q.savepointName m = q'.savepointName n ↔ q.id = q'.id ∧ m = n) ∧
    ∀ {op : Operation} {calls : List CallExchange} {a : Answer} {q : Provider},
      Course (p.perform op) calls (a, q) → ∀ x ∈ calls, ∀ name, x.1.savepoint? = some name →
        (∃ level ≤ p.depth + 1, name = p.savepointName level) ∧
        ∀ {t : Transaction} {l : List ConnectionExchange} {e : DbError},
          x.By t l → x.result = .error e →
            t.connection = none ∧ l = [] ∧ e = .noActiveTransaction ∨
              ∃ c sql, t.connection = some c ∧ l = [⟨.execute c ⟨sql, []⟩, .error e⟩] := by
  have valid (level : Nat) : Savepoint.isValid (p.savepointName level).toList = true :=
    Savepoint.isValid_name generated.isValid level
  refine ⟨?_, fun q q' m n => Savepoint.name_eq_iff, ?_⟩
  · intro level small
    refine ⟨Savepoint.validate_of_isValid (valid level), ?_⟩
    have length : (p.savepointName level).toList.length ≤ p.id.toList.length + 24 :=
      Savepoint.length_name_le small
    rw [generated.length] at length
    rw [Savepoint.utf8ByteSize_of_isValid (valid level)]
    omega
  · intro op calls a q course x hx name about
    obtain ⟨level, bound, rfl⟩ := (Move.of_course course).name_of_mem hx about
    exact ⟨⟨level, bound, rfl⟩, fun by_t failed => by_t.error about (valid level) failed⟩

/-- The name of the last level that fits into a word, and an entering whose statement takes too
long. -/
theorem names_usable_timeout :
    ∃ (p : Provider) (x : CallExchange) (t : Transaction) (l : List ConnectionExchange),
      p.id = "prv_000000000000000000000000000000ff" ∧ IsGenerated p.id ∧
      (p.savepointName 18446744073709551615).utf8ByteSize ≤ 63 ∧
      x.1 = .savepoint ⟨7⟩ "prv_000000000000000000000000000000ff_sp_1" ∧ x.By t l ∧
      x.result = .error (.timeout "statement execution" 30) ∧
      ∃ c sql, t.connection = some c ∧
        l = [⟨.execute c ⟨sql, []⟩, .error (.timeout "statement execution" 30)⟩] := by
  have made : idOf 255 = "prv_000000000000000000000000000000ff" := by decide +kernel
  have generated := isGenerated_idOf 255
  rw [made] at generated
  obtain ⟨usable, -, calls⟩ :=
    names_usable ⟨"prv_000000000000000000000000000000ff", ⟨0⟩, some ⟨7⟩, 0, some 0⟩ generated
  have course := (@Move.failed ⟨"prv_000000000000000000000000000000ff", ⟨0⟩, some ⟨7⟩, 0, some 0⟩
    (.enter 1) ⟨.savepoint ⟨7⟩ "prv_000000000000000000000000000000ff_sp_1",
      .error (.timeout "statement execution" 30)⟩ _ _ rfl rfl).course
  obtain ⟨-, fails⟩ := calls course _ List.mem_cons_self _ rfl
  have sent : CallExchange.By ⟨some ⟨3⟩⟩
      ⟨.savepoint ⟨7⟩ "prv_000000000000000000000000000000ff_sp_1",
      .error (.timeout "statement execution" 30)⟩
      [⟨.execute ⟨3⟩ ⟨"SAVEPOINT prv_000000000000000000000000000000ff_sp_1", []⟩,
        .error (.timeout "statement execution" 30)⟩] :=
    .ask _ (.answer _)
  obtain ⟨gone, -⟩ | onConnection := fails sent rfl
  · cases gone
  · exact ⟨_, _, _, _, rfl, generated, (usable _ (by decide)).2, rfl, sent, rfl, onConnection⟩

end Provider

end NestedTx
