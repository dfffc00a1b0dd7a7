import NestedTx.Proofs.Wire.Datum
import NestedTx.Proofs.Wire.Rendering
import NestedTx.Server.Scripted
import NestedTx.Server.Store

/-!
# Scalar integers

The first value of a result as an integer. What a column of integers or of exact decimals holds is
returned exactly if it is an integer of 64 bits, and is refused otherwise: no value is wrapped or
cut off. NULL and a result without rows give nothing.
-/

namespace NestedTx

open Text Wire

/-- What the first value of a result holds: nothing, an integer, a decimal with as many digits
behind the point as its scale says, or a decimal that is no number. -/
inductive Held where
  | nothing
  | integer (i : Int)
  | decimal (value : ℚ) (scale : Nat)
  | notANumber

namespace Held

/-- Is the integer held? A decimal that is shown with digits behind its point is no integer. -/
def Is (i : Int) : Held → Prop
  | integer j => j = i
  | decimal value scale => scale = 0 ∧ value = i
  | nothing | notANumber => False

end Held

/-! ### Cells -/

namespace Wire

/-- The number that groups stand for, with its sign. -/
def Numeric.signed (n : Numeric) : ℚ :=
  if n.sign = 0x4000 then -n.value else n.value

/-- A decimal as the server sends it: groups of four digits, of which no more stand behind the
point than the scale says. -/
structure Numeric.Sent (n : Numeric) : Prop where
  fits : n.Fits
  sign : n.sign = 0 ∨ n.sign = 0x4000
  groups : ∀ g ∈ n.groups, g < 10000
  places : ∃ units : Nat, n.value * 10 ^ n.scale = units

/-- What a cell holds in a column of integers or decimals of the given type, for a server that sends
its values in the given form. Unsigned integers may come filled up with zeros. A column `BOOLEAN`,
which is how MySQL names its integers of display width 1, is one of truth values: it holds none of
these, and `scalarInt_boolean` says what it gives. -/
inductive Holds : DatabaseKind → Format → (type : String) → Cell → Held → Prop
  | null {kind : DatabaseKind} {format : Format} {type : String} :
      Holds kind format type none .nothing
  | integer {format : Format} (type : Postgres.IntegerType) (i : SignedInteger type.bytes) :
      Holds .postgresql format type.name (some ((Postgres.Datum.integer type i).encode format))
        (.integer i.value)
  | signed {format : Format} (type : MySql.IntegerType) (i : SignedInteger type.bytes) :
      Holds .mysql format type.name (some ((MySql.Datum.signed type i).encode format))
        (.integer i.value)
  | unsigned {format : Format} (type : MySql.IntegerType) (n : UnsignedInteger type.bytes) :
      Holds .mysql format (type.name ++ " UNSIGNED")
        (some ((MySql.Datum.unsigned type n).encode format)) (.integer n.value)
  | zerofilled (type : MySql.IntegerType) (n : UnsignedInteger type.bytes) (zeros : Nat) :
      Holds .mysql .text (type.name ++ " UNSIGNED")
        (some (utf8 (List.replicate zeros '0' ++ decimal n.value))) (.integer n.value)
  | numeric {n : Numeric} (sent : n.Sent) :
      Holds .postgresql .binary "NUMERIC" (some (wordBytes n.words)) (.decimal n.signed n.scale)
  | notANumber {n : Numeric} (fits : n.Fits)
      (sign : n.sign = 0xC000 ∨ n.sign = 0xD000 ∨ n.sign = 0xF000) :
      Holds .postgresql .binary "NUMERIC" (some (wordBytes n.words)) .notANumber

/-- What a cell is decoded to tells what it holds: NULL, an integer, or a text from which no other
integer is read. -/
inductive Tells : Json → Held → Prop
  | null : Tells .null .nothing
  | int (i : Int) : Tells (.int i) (.integer i)
  | text {s : String} {held : Held} (there : held ≠ .nothing)
      (read : ∀ i, int64? s.toList = some i ↔ held.Is i ∧ minI64 ≤ i ∧ i ≤ maxI64) :
      Tells (.str s) held

/-- The text of a decimal is read as an integer if it has no digits behind its point. -/
lemma Numeric.Sent.int64?_text {n : Numeric} (h : n.Sent) (i : Int) :
    int64? n.text.toList = some i ↔
      (n.scale = 0 ∧ n.signed = i) ∧ minI64 ≤ i ∧ i ≤ maxI64 := by
  rw [Numeric.text_of_sign h.sign, String.toList_ofList, int64?]
  by_cases whole : n.scale = 0
  · obtain ⟨units, value⟩ := h.places
    rw [whole, pow_zero, mul_one] at value
    have digits : digits? n.wholeText = some units := by
      rw [digits?_of_ne_nil n.wholeText_ne_nil, Numeric.digitsValue?_wholeText h.groups, value,
        Nat.floor_natCast]
    rw [if_pos whole, List.append_nil, integer?_eq_some_iff_of_digits? digits, Numeric.signed,
      value]
    refine and_congr_left fun _ => ?_
    simp only [whole, true_and]
    split_ifs
    · norm_cast
    · norm_cast
  · have point : '.' ∈ (if n.sign = 0x4000 then ['-'] else []) ++ n.wholeText ++
        (if n.scale = 0 then [] else '.' :: n.fractionText) := by
      simp [whole]
    rw [integer?_eq_none point (by decide) (by decide) (by decide)]
    simp [whole]

/-- No integer is read from the texts of the decimals that are no numbers. -/
lemma Numeric.int64?_text_of_notANumber {n : Numeric}
    (h : n.sign = 0xC000 ∨ n.sign = 0xD000 ∨ n.sign = 0xF000) : int64? n.text.toList = none := by
  have texts : n.text = "NaN" ∨ n.text = "Infinity" ∨ n.text = "-Infinity" := by
    rw [Numeric.text]
    rcases h with h | h | h <;> simp [h]
  rcases texts with h | h | h <;> rw [h] <;> decide

/-- A zero-filled integer is decoded like any other. -/
lemma value?_zerofilled (type : MySql.IntegerType) (n : UnsignedInteger type.bytes) (zeros : Nat) :
    MySql.value? .text (type.name ++ " UNSIGNED")
      (utf8 (List.replicate zeros '0' ++ decimal n.value)) = some (.int n.value) := by
  have small : n.value ≤ maxU64 := Nat.le_of_lt_succ (n.lt_size type.bytes_le_eight)
  have literal : IsLiteral (List.replicate zeros '0' ++ decimal n.value) n.value :=
    ⟨_, Or.inl rfl, digits?_eq_some_iff.1 (digits?_zerofilled zeros n.value)⟩
  apply MySql.Datum.value?_of_unsigned type.ofType_unsigned type.isUnsigned_unsigned
  rw [MySql.unsigned?, utf8Decode?_utf8, Option.bind_some,
    natural?_eq_some_iff.2 ⟨literal, small⟩]
  rfl

/-- The text of a decimal is what a column of decimals is decoded to. -/
lemma value?_numeric {n : Numeric} (h : n.Fits) :
    Postgres.value? .binary "NUMERIC" (wordBytes n.words) = some (.str n.text) := by
  have category : Category.ofType "NUMERIC" .postgresql = .decimal := by decide +kernel
  have read : numericText? (wordBytes n.words) = some n.text := by
    rw [numericText?, Numeric.ofBytes?_wordBytes h, Option.map_some]
  rw [Postgres.value?, category]
  simp [Postgres.decimal?, read]

lemma valueOf_postgresql : ScriptedServer.valueOf .postgresql = Postgres.value? := rfl

lemma valueOf_mysql : ScriptedServer.valueOf .mysql = MySql.value? := rfl

lemma Tells.of_decoded {kind : DatabaseKind} {format : Format} {type : String} {bs : List UInt8}
    {json : Json} {held : Held} (h : Tells json held)
    (decoded : ScriptedServer.valueOf kind format type bs = some json) :
    Tells (((some bs).bind (ScriptedServer.valueOf kind format type)).getD .null) held := by
  rw [Option.bind_some, decoded]
  exact h

/-- A cell is decoded to what tells what it holds. -/
lemma Holds.tells {kind : DatabaseKind} {format : Format} {type : String} {v : Cell} {held : Held}
    (h : Holds kind format type v held) :
    Tells ((v.bind (ScriptedServer.valueOf kind format type)).getD .null) held := by
  cases h with
  | null => exact .null
  | integer type i =>
    apply (Tells.int i.value).of_decoded
    rw [valueOf_postgresql]
    exact (Postgres.Datum.integer type i).value?_encode format
  | signed type i =>
    apply (Tells.int i.value).of_decoded
    rw [valueOf_mysql]
    exact (MySql.Datum.signed type i).value?_encode format
  | unsigned type n =>
    apply (Tells.int n.value).of_decoded
    rw [valueOf_mysql]
    exact (MySql.Datum.unsigned type n).value?_encode format
  | zerofilled type n zeros =>
    apply (Tells.int n.value).of_decoded
    rw [valueOf_mysql]
    exact value?_zerofilled type n zeros
  | numeric sent =>
    have text : Tells (.str _) (.decimal _ _) := .text nofun sent.int64?_text
    apply text.of_decoded
    rw [valueOf_postgresql]
    exact value?_numeric sent.fits
  | @notANumber n fits sign =>
    have text : Tells (.str n.text) .notANumber := by
      refine .text nofun fun i => ?_
      rw [Numeric.int64?_text_of_notANumber sign]
      exact ⟨nofun, fun h => h.1.elim⟩
    apply text.of_decoded
    rw [valueOf_postgresql]
    exact value?_numeric fits

end Wire

/-! ### Stored values -/

/-- A statement is carried out on the data that its session sees. -/
lemma Session.run_fst {δ α : Type} (session : Session δ) (f : δ → α × δ) (durable : δ) :
    (session.run f durable).1 = (f (session.view durable)).1 := by
  cases session <;> rfl

namespace StoreLink

variable {l : StoreLink} {data : StoreData} {st : Statement} {v : Sql.Value} {r : Rows} {limit : Nat}

/-- Is this the first value of what a statement selects from a store? -/
def Selects (l : StoreLink) (data : StoreData) (st : Statement) (v : Sql.Value) : Prop :=
  ∃ c columns row rows, Sql.command (l.session.view data).isSome st = .ok c ∧
    c.selected? ((l.session.view data).getD []) = some (columns, (v :: row) :: rows)

lemma apply_of_selected {c : Sql.Command} {columns : List String} {rows : List (List Sql.Value)}
    (h : c.selected? (data.getD []) = some (columns, rows)) :
    c.apply data = (⟨.ok (Rows.stored columns rows), none, none⟩, data) := by
  rw [Sql.Command.apply.eq_def]
  simp only [h]

lemma control?_of_selected {c : Sql.Command} {items : Items}
    {selected : List String × List (List Sql.Value)} (h : c.selected? items = some selected) :
    l.control? data c = none := by
  cases c with
  | begin | commit | rollback | savepoint _ | rollbackTo _ => cases h
  | _ => rfl

/-- A query returns what it selects, each value as it is read. -/
lemma Selects.firstValue? (h : l.Selects data st v)
    (answered : (l.answer data st).1.queryResult limit = .ok r) : r.firstValue? = some v.toJson := by
  obtain ⟨c, columns, row, rows, read, selected⟩ := h
  have success : (l.answer data st).1 =
      .success ⟨l.changes, l.lastId, Rows.stored columns ((v :: row) :: rows)⟩ := by
    have effect : (l.session.run c.apply data).1 =
        ⟨.ok (Rows.stored columns ((v :: row) :: rows)), none, none⟩ := by
      rw [Session.run_fst, apply_of_selected selected]
    rw [answer, read]
    simp only [control?_of_selected selected, effect]
    rfl
  rw [success] at answered
  cases answered
  rfl

end StoreLink

/-! ### Rows -/

namespace Rows

/-- What the first value of a result holds, whether the rows were sent by a server or are those of a
query to an embedded store. Nothing is asked of the other values. -/
inductive First : Rows → Held → Prop
  | noRows {r : Rows} (none : r.rows = []) : First r .nothing
  | sent {kind : DatabaseKind} {format : Format} {c : Column} {columns : List Column} {v : Cell}
      {row : List Cell} {rows : List (List Cell)} {held : Held}
      (holds : Holds kind format c.type v held) :
      First (Table.decode (ScriptedServer.valueOf kind format) ⟨c :: columns, (v :: row) :: rows⟩)
        held
  | storedNull {l : StoreLink} {data : StoreData} {st : Statement} {limit : Nat} {r : Rows}
      (selects : l.Selects data st .null)
      (answered : (l.answer data st).1.queryResult limit = .ok r) : First r .nothing
  | storedInteger {l : StoreLink} {data : StoreData} {st : Statement} {limit : Nat} {r : Rows}
      {i : Int} (selects : l.Selects data st (.integer i))
      (answered : (l.answer data st).1.queryResult limit = .ok r) : First r (.integer i)

variable {r : Rows} {held : Held}

lemma First.tells (h : First r held) :
    (r.firstValue? = none ∧ held = .nothing) ∨ ∃ v, r.firstValue? = some v ∧ Tells v held := by
  cases h with
  | noRows none =>
    left
    rw [firstValue?, none]
    exact ⟨rfl, rfl⟩
  | sent holds => exact Or.inr ⟨_, rfl, holds.tells⟩
  | storedNull selects answered => exact Or.inr ⟨_, selects.firstValue? answered, .null⟩
  | storedInteger selects answered => exact Or.inr ⟨_, selects.firstValue? answered, .int _⟩

/-- An integer is returned, or nothing is, or the value is refused. -/
lemma scalarInt_cases (r : Rows) :
    (∃ i, r.scalarInt = .ok (some i)) ∨ r.scalarInt = .ok none ∨
      ∃ text, r.scalarInt = .error (.invalidInput text) := by
  rw [scalarInt]
  split
  · exact Or.inr (Or.inl rfl)
  · exact Or.inr (Or.inl rfl)
  · exact Or.inl ⟨_, rfl⟩
  · split
    · exact Or.inl ⟨_, rfl⟩
    · exact Or.inr (Or.inr ⟨_, rfl⟩)
  · split
    · exact Or.inl ⟨_, rfl⟩
    · exact Or.inr (Or.inr ⟨_, rfl⟩)
  · exact Or.inr (Or.inr ⟨_, rfl⟩)

lemma scalarInt_of_tells {v : Json} (first : r.firstValue? = some v) (h : Tells v held) :
    (∀ i, r.scalarInt = .ok (some i) ↔ held.Is i ∧ minI64 ≤ i ∧ i ≤ maxI64) ∧
      (r.scalarInt = .ok none ↔ held = .nothing) := by
  cases h with
  | null => simp [scalarInt, first, Held.Is]
  | int j =>
    simp only [scalarInt, first]
    split_ifs with inside
    · refine ⟨fun i => ?_, by simp⟩
      constructor
      · intro h
        cases h
        exact ⟨rfl, inside⟩
      · rintro ⟨rfl, -⟩
        rfl
    · refine ⟨fun i => ?_, by simp⟩
      constructor
      · exact nofun
      · rintro ⟨rfl, h⟩
        exact absurd h inside
  | @text s _ there read =>
    simp only [scalarInt, first, ← read, there]
    cases int64? s.toList <;> simp

/-- The first value of a result is returned as an integer if and only if it is one of 64 bits;
nothing is returned for NULL and for no rows; every other value is refused. -/
theorem scalarInt_exact (first : First r held) :
    (∀ i, r.scalarInt = .ok (some i) ↔ held.Is i ∧ minI64 ≤ i ∧ i ≤ maxI64) ∧
    (r.scalarInt = .ok none ↔ held = .nothing) ∧
    ((∃ text, r.scalarInt = .error (.invalidInput text)) ↔
      held ≠ .nothing ∧ ∀ i, held.Is i → ¬(minI64 ≤ i ∧ i ≤ maxI64)) := by
  -- the third case is what is left, as there are only three results
  obtain ⟨exact, nothing⟩ : (∀ i, r.scalarInt = .ok (some i) ↔
      held.Is i ∧ minI64 ≤ i ∧ i ≤ maxI64) ∧ (r.scalarInt = .ok none ↔ held = .nothing) := by
    rcases first.tells with ⟨none, rfl⟩ | ⟨v, some, tells⟩
    · simp [scalarInt, none, Held.Is]
    · exact scalarInt_of_tells some tells
  refine ⟨exact, nothing, ?_⟩
  constructor
  · rintro ⟨text, refused⟩
    constructor
    · intro absent
      rw [nothing.2 absent] at refused
      cases refused
    · intro i is inside
      rw [(exact i).2 ⟨is, inside⟩] at refused
      cases refused
  · rintro ⟨there, outside⟩
    rcases r.scalarInt_cases with ⟨i, returned⟩ | returned | refused
    · obtain ⟨is, inside⟩ := (exact i).1 returned
      exact absurd inside (outside i is)
    · exact absurd (nothing.1 returned) there
    · exact refused

lemma scalarInt_of_bool {b : Bool} (first : r.firstValue? = some (.bool b)) :
    r.scalarInt = .ok (some (if b then 1 else 0)) := by
  rw [scalarInt, first]

lemma firstValue?_decode {value? : String → List UInt8 → Option Json} {c : Column}
    {columns : List Column} {bs : List UInt8} {row : List Cell} {rows : List (List Cell)} {v : Json}
    (h : value? c.type bs = some v) :
    (Table.decode value? ⟨c :: columns, (some bs :: row) :: rows⟩).firstValue? = some v := by
  show some ((value? c.type bs).getD .null) = some v
  rw [h, Option.getD_some]

/-- A column of truth values holds no integers, and what is returned for it is 0 or 1. MySQL reports
its integers of display width 1 in such a column, and 1 is returned for each of them but 0. -/
theorem scalarInt_boolean (format : Format) (name : String) (columns : List Column)
    (row : List Cell) (rows : List (List Cell)) :
    (∀ i : SignedInteger 1,
      (Table.decode (ScriptedServer.valueOf .mysql format)
        ⟨⟨name, "BOOLEAN"⟩ :: columns,
          (some ((MySql.Datum.boolean i).encode format) :: row) :: rows⟩).scalarInt =
        .ok (some (if i.value = 0 then 0 else 1))) ∧
    ∀ b : Bool,
      (Table.decode (ScriptedServer.valueOf .postgresql format)
        ⟨⟨name, "BOOL"⟩ :: columns,
          (some ((Postgres.Datum.bool b).encode format) :: row) :: rows⟩).scalarInt =
        .ok (some (if b then 1 else 0)) := by
  constructor
  · intro i
    rw [scalarInt_of_bool (firstValue?_decode ((MySql.Datum.boolean i).value?_encode format))]
    by_cases zero : i.value = 0 <;> simp [zero]
  · intro b
    exact scalarInt_of_bool (firstValue?_decode ((Postgres.Datum.bool b).value?_encode format))

/-- The groups of 2 ^ 63 behind a sign. -/
def limit (sign : Nat) : Numeric :=
  ⟨4, sign, 0, [922, 3372, 368, 5477, 5808]⟩

lemma value_limit (sign : Nat) : (limit sign).value = 9223372036854775808 := by
  norm_num [limit, Numeric.value_cons]

lemma sent_limit {sign : Nat} (h : sign = 0 ∨ sign = 0x4000) : (limit sign).Sent := by
  have groups : ∀ g ∈ [922, 3372, 368, 5477, 5808], g < 10000 := by decide
  refine ⟨?_, h, groups, 9223372036854775808, ?_⟩
  · rcases h with rfl | rfl <;> constructor <;> decide
  · rw [value_limit]
    norm_num [limit]

/-- A row with this number in a column of decimals. -/
def limitRows (sign : Nat) : Rows :=
  Table.decode (ScriptedServer.valueOf .postgresql .binary)
    ⟨[⟨"n", "NUMERIC"⟩], [[some (wordBytes (limit sign).words)]]⟩

/-- The smallest integer is returned; with the other sign it is refused. -/
theorem scalarInt_exact_limits :
    (limitRows 0x4000).scalarInt = .ok (some (-9223372036854775808)) ∧
      ∃ text, (limitRows 0).scalarInt = .error (.invalidInput text) := by
  constructor
  · refine ((scalarInt_exact (.sent (.numeric (sent_limit (Or.inr rfl))))).1 _).2 ?_
    refine ⟨⟨rfl, ?_⟩, by decide, by decide⟩
    rw [Numeric.signed, value_limit]
    norm_num [limit]
  · refine (scalarInt_exact (.sent (.numeric (sent_limit (Or.inl rfl))))).2.2.2 ⟨nofun, ?_⟩
    rintro i ⟨-, value⟩ ⟨-, upper⟩
    have whole : i = 9223372036854775808 := by
      rw [Numeric.signed, value_limit] at value
      norm_num [limit] at value
      exact_mod_cast value.symm
    rw [whole] at upper
    exact absurd upper (by decide)

end Rows

end NestedTx
