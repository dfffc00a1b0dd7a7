import Mathlib.Data.List.TakeWhile
import NestedTx.Proofs.Savepoint.Grammar
import NestedTx.Proofs.Text.Trimming
import NestedTx.Proofs.Transaction.Operation
import NestedTx.Server.Sql

/-!
# Statements about savepoints

The name of a savepoint is put into a statement as it is. Since only identifiers are let through, the
statement has the words that it should have and the name as one more, so that a server reads the
name that was meant and nothing besides.
-/

namespace NestedTx

open Text

/-! ### Words of a statement -/

namespace Sql

open Savepoint (inName startsName isValid)

variable {c : Char} {w rest : List Char} {ws : List (List Char)} {fuel : Nat}

lemma inWord_of_inName (h : inName c = true) : inWord c = true := by
  rw [inWord, ← inName, h]
  rfl

/-- A character of a name is neither between words nor does it begin anything but a word. -/
lemma plain_of_inName (h : inName c = true) :
    (c.isWhitespace || c == ';') = false ∧ c ≠ '\'' ∧ c ≠ '?' := by
  have checked : inName c = true →
      (c.isWhitespace || c == ';') = false ∧ c ≠ '\'' ∧ c ≠ '?' := by
    apply forall_ascii _ (Savepoint.ascii_of_inName h)
    decide +kernel
  exact checked h

lemma isDigit_of_startsName (h : startsName c = true) : isDigit c = false := by
  have checked : startsName c = true → isDigit c = false := by
    apply forall_ascii _ (Savepoint.ascii_of_inName (Savepoint.inName_of_startsName h))
    decide +kernel
  exact checked h

/-- An identifier in front of a blank or of the end is one token. -/
lemma nextToken?_word (hc : startsName c = true) (hw : ∀ d ∈ w, inName d = true)
    (stop : ∀ d ∈ rest.head?, d = ' ') :
    nextToken? c (w ++ rest) = some (.word (c :: w), rest) := by
  have first := Savepoint.inName_of_startsName hc
  obtain ⟨-, quote, question⟩ := plain_of_inName first
  -- an `x` begins a blob only in front of a quote
  have unquoted : (w ++ rest).head? ≠ some '\'' := by
    rw [List.head?_append]
    cases w with
    | nil =>
      intro h
      exact absurd (stop _ h) (by decide)
    | cons d w =>
      intro h
      exact (plain_of_inName (hw d List.mem_cons_self)).2.1 (Option.some.inj h)
  have inside : ∀ d ∈ w, inWord d = true := fun d hd => inWord_of_inName (hw d hd)
  have ends : ∀ d ∈ rest.head?, inWord d = false := by
    intro d hd
    rw [stop d hd]
    decide
  obtain ⟨front, behind⟩ := takeWhile_append_of_stop ends w
  rw [List.takeWhile_eq_self_iff.2 inside] at front
  rw [List.dropWhile_eq_nil_iff.2 inside, List.nil_append] at behind
  rw [nextToken?, if_neg quote, if_neg fun blob => unquoted blob.2, if_neg question,
    isDigit_of_startsName hc, if_neg Bool.false_ne_true, inWord_of_inName first, if_pos rfl, front,
    behind]

lemma tokens?_word (hw : isValid w = true) (stop : ∀ d ∈ rest.head?, d = ' ') :
    tokens? (fuel + 1) (w ++ rest) = (tokens? fuel rest).map (.word w :: ·) := by
  cases w with
  | nil => cases hw
  | cons c w =>
    rw [isValid, Bool.and_eq_true, List.all_eq_true] at hw
    obtain ⟨between, -⟩ := plain_of_inName (Savepoint.inName_of_startsName hw.1)
    rw [List.cons_append, tokens?, between, if_neg Bool.false_ne_true,
      nextToken?_word hw.1 hw.2 stop, Option.map_eq_bind]
    rfl

lemma tokens?_blank : tokens? (fuel + 1) (' ' :: rest) = tokens? fuel rest :=
  rfl

/-- Identifiers with a blank between each two are read as they are. -/
lemma tokens?_words (h : ∀ w ∈ ws, isValid w = true)
    (hf : ([' '].intercalate ws).length ≤ fuel) :
    tokens? fuel ([' '].intercalate ws) = some (ws.map .word) := by
  induction ws generalizing fuel with
  | nil => cases fuel <;> rfl
  | cons w ws ih =>
    obtain ⟨first, others⟩ := List.forall_mem_cons.1 h
    have nonempty : 0 < w.length := by
      cases w with
      | nil => cases first
      | cons c w => exact Nat.succ_pos _
    cases ws with
    | nil =>
      rw [List.intercalate_singleton] at hf ⊢
      obtain ⟨fuel, rfl⟩ : ∃ k, fuel = k + 1 := ⟨fuel - 1, by omega⟩
      have read : tokens? (fuel + 1) (w ++ []) = (tokens? fuel []).map (.word w :: ·) :=
        tokens?_word first (by simp)
      rw [List.append_nil] at read
      rw [read]
      cases fuel <;> rfl
    | cons v ws =>
      rw [List.intercalate_cons_cons, List.append_assoc, List.singleton_append] at hf ⊢
      rw [List.length_append, List.length_cons] at hf
      -- a word and the blank behind it take one step each
      obtain ⟨fuel, rfl⟩ : ∃ k, fuel = k + 2 := ⟨fuel - 2, by omega⟩
      rw [tokens?_word first (by simp), tokens?_blank, ih others (by omega)]
      rfl

/-- A statement of identifiers with a blank between each two has no other tokens. -/
lemma tokens?_intercalate {words : List String} (h : ∀ w ∈ words, isValid w.toList = true) :
    tokens? (" ".intercalate words).length (" ".intercalate words).toList =
      some (words.map fun w => .word w.toList) := by
  have text : (" ".intercalate words).toList = [' '].intercalate (words.map String.toList) :=
    String.toList_intercalate
  rw [← String.length_toList, text, tokens?_words (List.forall_mem_map.2 h) (Nat.le_refl _),
    List.map_map]
  rfl

end Sql

namespace Transaction

open Savepoint (identifier)

/-! ### What is sent -/

/-- An operation about a savepoint, the words that its statement has in front of the name, and the
command that the statement is. -/
inductive Operation.About (name : String) : Operation → List String → Sql.Command → Prop
  | set : About name (.savepoint name) ["SAVEPOINT"] (.savepoint name)
  | back : About name (.rollbackTo name) ["ROLLBACK", "TO", "SAVEPOINT"] (.rollbackTo name)

namespace Operation.About

variable {name : String} {op : Operation} {words : List String} {command : Sql.Command}

/-- The words and the name have one blank between each two. -/
lemma exists_statement (h : op.About name words command) :
    ∃ statement : String → String, statement name = " ".intercalate (words ++ [name]) ∧
      ∀ t : Transaction, t.perform op =
        (t.aboutSavepoint statement name).andThen fun r => .answer (.done r, t) := by
  cases h with
  | set =>
    refine ⟨Savepoint.setStatement, String.toList_injective ?_, fun t => rfl⟩
    show ("SAVEPOINT " ++ name).toList = _
    simp
  | back =>
    refine ⟨Savepoint.rollbackStatement, String.toList_injective ?_, fun t => rfl⟩
    show ("ROLLBACK TO SAVEPOINT " ++ name).toList = _
    simp

/-- A name that is no identifier is refused, and nothing is sent. -/
lemma perform_of_invalid (h : op.About name words command) {e : DbError}
    (bad : Savepoint.validate name = .error e) (t : Transaction) :
    t.perform op = .answer (.done (.error e), t) := by
  obtain ⟨statement, -, perform⟩ := h.exists_statement
  rw [perform, aboutSavepoint, bad]
  rfl

/-- An identifier is sent in one statement, behind the words of the operation. -/
lemma perform_of_valid (h : op.About name words command)
    (valid : Savepoint.validate name = .ok ()) (c : ConnectionId) :
    (⟨some c⟩ : Transaction).perform op =
      .ask (.execute c ⟨" ".intercalate (words ++ [name]), []⟩) fun r =>
        .answer (.done (r.map fun _ => ()), ⟨some c⟩) := by
  obtain ⟨statement, sql, perform⟩ := h.exists_statement
  rw [perform, aboutSavepoint, valid, ← sql]
  apply congrArg (Dialogue.ask _)
  funext r
  cases r with
  | ok r => rfl
  | error e => rfl

lemma isValid_of_mem (h : op.About name words command)
    (valid : Savepoint.isValid name.toList = true) :
    ∀ w ∈ words ++ [name], Savepoint.isValid w.toList = true := by
  rw [List.forall_mem_append, List.forall_mem_singleton]
  refine ⟨?_, valid⟩
  cases h with
  | set => decide
  | back => decide

/-- The statement falls into its words at its blanks. -/
lemma splitOn_statement (h : op.About name words command)
    (valid : Savepoint.isValid name.toList = true) :
    (" ".intercalate (words ++ [name])).toList.splitOn ' ' =
      (words ++ [name]).map String.toList := by
  have text : (" ".intercalate (words ++ [name])).toList =
      [' '].intercalate ((words ++ [name]).map String.toList) := String.toList_intercalate
  rw [text, List.splitOn_intercalate]
  · rw [List.forall_mem_map]
    intro w hw blank
    exact absurd (Savepoint.inName_of_mem (h.isValid_of_mem valid w hw) blank) (by decide)
  · simp

lemma control?_words (h : op.About name words command) :
    Sql.control? ((words ++ [name]).map fun w => .word w.toList) = some command := by
  cases h with
  | set =>
    have keyword : (Sql.Token.word "SAVEPOINT".toList).isKeyword "savepoint" = true := by decide
    simp only [List.singleton_append, List.map_cons, List.map_nil, Sql.control?, keyword, if_true,
      String.ofList_toList]
  | back =>
    have keywords : ((Sql.Token.word "ROLLBACK".toList).isKeyword "rollback" &&
        (Sql.Token.word "TO".toList).isKeyword "to" &&
        (Sql.Token.word "SAVEPOINT".toList).isKeyword "savepoint") = true := by decide
    simp only [List.cons_append, List.nil_append, List.map_cons, List.map_nil, Sql.control?,
      keywords, if_true, String.ofList_toList]

/-- A server reads the command with the name that was meant. -/
lemma command_statement (h : op.About name words command)
    (valid : Savepoint.isValid name.toList = true) (hasItems : Bool) :
    Sql.command hasItems ⟨" ".intercalate (words ++ [name]), []⟩ = .ok command := by
  rw [Sql.command, Sql.tokens?_intercalate (h.isValid_of_mem valid)]
  simp only [bind, Except.bind, h.control?_words]
  rfl

end Operation.About

/-- A name is let through if and only if it is an identifier, `[A-Za-z_][A-Za-z0-9_]*`, and refused
as bad input otherwise. An operation about a savepoint of an open transaction therefore either sends
nothing and fails for the name, or sends one statement and gives back what became of it. That
statement is the words of the operation and the name with a blank between each two. It falls into
these words again at its blanks, and for a server they are its tokens, the name a single one, so that
what it carries out is the command with just this name. -/
theorem names_interpolated (name : String) :
    (Savepoint.validate name = .ok () ↔ name.toList ∈ identifier.matches') ∧
    (name.toList ∉ identifier.matches' →
      ∃ text, Savepoint.validate name = .error (.invalidInput text)) ∧
    ∀ {op : Operation} {words : List String} {command : Sql.Command}, op.About name words command →
      ∀ c : ConnectionId,
      (name.toList ∉ identifier.matches' ∧ ∃ text,
        (⟨some c⟩ : Transaction).perform op =
          .answer (.done (.error (.invalidInput text)), ⟨some c⟩)) ∨
      (name.toList ∈ identifier.matches' ∧ ∃ sql,
        ((⟨some c⟩ : Transaction).perform op =
          .ask (.execute c ⟨sql, []⟩) fun r => .answer (.done (r.map fun _ => ()), ⟨some c⟩)) ∧
        sql = " ".intercalate (words ++ [name]) ∧
        sql.toList.splitOn ' ' = (words ++ [name]).map String.toList ∧
        Sql.tokens? sql.length sql.toList =
          some ((words ++ [name]).map fun w => .word w.toList) ∧
        ∀ hasItems, Sql.command hasItems ⟨sql, []⟩ = .ok command) := by
  -- the regular language is replaced by the check that runs, and the check decides
  simp only [← Savepoint.isValid_iff]
  rcases Savepoint.validate_cases name with ⟨valid, passed⟩ | ⟨invalid, text, refused⟩
  · refine ⟨iff_of_true passed valid, fun bad => absurd valid bad, fun h c => Or.inr ⟨valid, ?_⟩⟩
    exact ⟨_, h.perform_of_valid passed c, rfl, h.splitOn_statement valid,
      Sql.tokens?_intercalate (h.isValid_of_mem valid), h.command_statement valid⟩
  · have bad : ¬Savepoint.isValid name.toList = true := by simp [invalid]
    refine ⟨iff_of_false (by simp [refused]) bad, fun _ => ⟨text, refused⟩, fun h c => Or.inl ?_⟩
    exact ⟨bad, text, h.perform_of_invalid refused _⟩

/-- A name that would end the statement and begin another, and one that a provider makes up. -/
theorem names_interpolated_hostile :
    "sp;DROP TABLE t".toList ∉ identifier.matches' ∧
    (∃ text, Savepoint.validate "sp;DROP TABLE t" = .error (.invalidInput text) ∧
      ∃ text, (⟨some ⟨0⟩⟩ : Transaction).perform (.savepoint "sp;DROP TABLE t") =
        .answer (.done (.error (.invalidInput text)), ⟨some ⟨0⟩⟩)) ∧
    Operation.About "prv_0f_sp_12" (.rollbackTo "prv_0f_sp_12") ["ROLLBACK", "TO", "SAVEPOINT"]
      (.rollbackTo "prv_0f_sp_12") ∧
    ∃ sql, ((⟨some ⟨0⟩⟩ : Transaction).perform (.rollbackTo "prv_0f_sp_12") =
        .ask (.execute ⟨0⟩ ⟨sql, []⟩) fun r => .answer (.done (r.map fun _ => ()), ⟨some ⟨0⟩⟩)) ∧
      sql.toList.splitOn ' ' =
        ["ROLLBACK".toList, "TO".toList, "SAVEPOINT".toList, "prv_0f_sp_12".toList] ∧
      Sql.command true ⟨sql, []⟩ = .ok (.rollbackTo "prv_0f_sp_12") := by
  have hostile : "sp;DROP TABLE t".toList ∉ identifier.matches' := by
    rw [← Savepoint.isValid_iff]
    decide
  have plain : "prv_0f_sp_12".toList ∈ identifier.matches' := by
    rw [← Savepoint.isValid_iff]
    decide
  obtain ⟨-, refused, stopped⟩ := names_interpolated "sp;DROP TABLE t"
  obtain ⟨-, -, sent⟩ := names_interpolated "prv_0f_sp_12"
  obtain ⟨text, refused⟩ := refused hostile
  obtain ⟨-, stopped⟩ := (stopped .set ⟨0⟩).resolve_right fun valid => hostile valid.1
  obtain ⟨-, sql, made, -, words, -, read⟩ :=
    (sent .back ⟨0⟩).resolve_left fun invalid => invalid.1 plain
  exact ⟨hostile, ⟨text, refused, stopped⟩, .back, sql, made, words, read true⟩

end Transaction

end NestedTx
