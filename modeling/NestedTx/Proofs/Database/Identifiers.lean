import NestedTx.Database.Connection
import NestedTx.Proofs.Text.LowerCase

/-!
# Ids and kinds of databases

Settings are made for an id of letters, numbers, `-` and `_` and a connection string with a known
start, in any case of its letters. The grammar of ids knows letters and digits of ASCII only. The
letters and numbers of other scripts pass as well, and nothing else does.
-/

namespace NestedTx

open Text

/-! ### Starts of connection strings -/

/-- Does the text start with the word, in any case of its ASCII letters? -/
def StartsIgnoringCase (word s : String) : Prop :=
  ∃ front rest, s.toList = front ++ rest ∧ eqIgnoringCase front word.toList = true

namespace DatabaseKind

variable {s : String} {kind : DatabaseKind} {scheme : String × DatabaseKind}

/-- The starts are in lower case, of ASCII, without a `k` and with a mark at the end. -/
lemma plain_of_mem_schemes (h : scheme ∈ schemes) :
    lowercase scheme.1.toList = scheme.1.toList ∧ (∀ c ∈ scheme.1.toList, c.toNat < 0x80) ∧
      'k' ∉ scheme.1.toList ∧ scheme.1.toList.getLast? ≠ some 'i' := by
  have ascii : scheme.1.toList.all (fun c => decide (c.toNat < 0x80)) = true := by
    revert scheme
    decide
  have word : lowercase scheme.1.toList = scheme.1.toList ∧
      'k' ∉ scheme.1.toList ∧ scheme.1.toList.getLast? ≠ some 'i' := by
    revert scheme
    decide
  exact ⟨word.1, fun c hc => of_decide_eq_true (List.all_eq_true.1 ascii c hc), word.2⟩

/-- No connection string has the starts of two kinds of databases. -/
lemma kind_eq_of_opens : ∀ a ∈ schemes, ∀ b ∈ schemes, a.1.toList <+: b.1.toList → a.2 = b.2 := by
  decide

lemma prefix_lowercase_iff (h : scheme ∈ schemes) :
    scheme.1.toList <+: lowercase s.toList ↔ StartsIgnoringCase scheme.1 s := by
  obtain ⟨lower, -⟩ := plain_of_mem_schemes h
  constructor
  · rintro ⟨rest, split⟩
    obtain ⟨front, behind, text, begins, -⟩ := List.map_eq_append_iff.1 split.symm
    refine ⟨front, behind, text, ?_⟩
    rw [eqIgnoringCase, lower, beq_iff_eq]
    exact begins
  · rintro ⟨front, rest, text, same⟩
    rw [eqIgnoringCase, lower, beq_iff_eq] at same
    rw [text, lowercase, List.map_append, ← lowercase, same]
    exact List.prefix_append ..

/-- The start is the same in every script. -/
lemma prefix_lowerCase_iff (h : scheme ∈ schemes) {lower : List Char}
    (lowered : LowerCase s.toList lower) :
    scheme.1.toList <+: lower ↔ StartsIgnoringCase scheme.1 s := by
  obtain ⟨-, ascii, kelvin, dotted⟩ := plain_of_mem_schemes h
  rw [lowered.prefix_iff ascii kelvin dotted, prefix_lowercase_iff h]

lemma mem_schemes_of_find? {s : String} {scheme : String × DatabaseKind}
    (h : schemes.find? (fun scheme => scheme.1.toList.isPrefixOf (lowercase s.toList)) =
      some scheme) : scheme ∈ schemes ∧ StartsIgnoringCase scheme.1 s := by
  have known := List.mem_of_find?_eq_some h
  have found := List.find?_some h
  rw [List.isPrefixOf_iff_prefix, prefix_lowercase_iff known] at found
  exact ⟨known, found⟩

lemma ofConnectionString?_eq_none_iff :
    ofConnectionString? s = none ↔ ∀ scheme ∈ schemes, ¬StartsIgnoringCase scheme.1 s := by
  rw [ofConnectionString?, Option.map_eq_none_iff, List.find?_eq_none]
  refine forall₂_congr fun scheme known => ?_
  rw [List.isPrefixOf_iff_prefix, prefix_lowercase_iff known]

/-- A kind of databases is known by each of its starts, and by nothing else. -/
lemma ofConnectionString?_eq_some_iff :
    ofConnectionString? s = some kind ↔
      ∃ word, (word, kind) ∈ schemes ∧ StartsIgnoringCase word s := by
  constructor
  · intro h
    obtain ⟨scheme, found, rfl⟩ := Option.map_eq_some_iff.1 h
    obtain ⟨known, starts⟩ := mem_schemes_of_find? found
    exact ⟨scheme.1, known, starts⟩
  · rintro ⟨word, known, starts⟩
    obtain ⟨other, found⟩ : ∃ other, ofConnectionString? s = some other := by
      rw [← Option.ne_none_iff_exists']
      intro none
      exact ofConnectionString?_eq_none_iff.1 none _ known starts
    obtain ⟨scheme, first, rfl⟩ := Option.map_eq_some_iff.1 found
    obtain ⟨known', starts'⟩ := mem_schemes_of_find? first
    -- two starts of one text begin with each other
    have begins := (prefix_lowercase_iff known).2 starts
    have begins' := (prefix_lowercase_iff known').2 starts'
    rw [found]
    rcases List.prefix_or_prefix_of_prefix begins begins' with h | h
    · exact congrArg some (kind_eq_of_opens _ known _ known' h).symm
    · exact congrArg some (kind_eq_of_opens _ known' _ known h)

end DatabaseKind

/-! ### Ids -/

namespace ConnectionConfig

variable {id s : String} {pool : PoolOptions} {c : Char}

/-- May the character stand in an id, by the grammar of ids? -/
def InIdGrammar (c : Char) : Prop :=
  ('A' ≤ c ∧ c ≤ 'Z') ∨ ('a' ≤ c ∧ c ≤ 'z') ∨ ('0' ≤ c ∧ c ≤ '9') ∨ c = '_' ∨ c = '-'

/-- Is the character a letter or a number outside of ASCII? -/
def IsForeign (c : Char) : Prop :=
  0x80 ≤ c.toNat ∧ isAlphanumeric c = true

instance : DecidablePred InIdGrammar := fun _ => inferInstanceAs (Decidable (_ ∨ _))

instance : DecidablePred IsForeign := fun _ => inferInstanceAs (Decidable (_ ∧ _))

lemma InIdGrammar.ascii (h : InIdGrammar c) : c.toNat < 0x80 := by
  rcases h with ⟨-, h⟩ | ⟨-, h⟩ | ⟨-, h⟩ | rfl | rfl
  · exact Nat.lt_of_le_of_lt (show c.toNat ≤ 90 from h) (by decide)
  · exact Nat.lt_of_le_of_lt (show c.toNat ≤ 122 from h) (by decide)
  · exact Nat.lt_of_le_of_lt (show c.toNat ≤ 57 from h) (by decide)
  · decide
  · decide

lemma isAlphanum_iff : c.isAlphanum = true ↔
    ('A' ≤ c ∧ c ≤ 'Z') ∨ ('a' ≤ c ∧ c ≤ 'z') ∨ ('0' ≤ c ∧ c ≤ '9') := by
  delta Char.isAlphanum Char.isAlpha Char.isUpper Char.isLower Char.isDigit
  simp [Char.le_def, or_assoc]

/-- The characters of ids are those of the grammar and the letters and numbers outside of ASCII. -/
lemma inId_iff : inId c = true ↔ InIdGrammar c ∨ IsForeign c := by
  by_cases ascii : c.toNat < 0x80
  · have near : ¬IsForeign c := fun h => Nat.not_lt.2 h.1 ascii
    rw [inId, isAlphanumeric_of_ascii ascii, or_iff_left near, InIdGrammar]
    simp only [Bool.or_eq_true, isAlphanum_iff, beq_iff_eq]
    tauto
  · have outside : ¬InIdGrammar c := fun h => ascii h.ascii
    have marks : (c == '-') = false ∧ (c == '_') = false := by
      rw [beq_eq_false_iff_ne, beq_eq_false_iff_ne]
      constructor <;> (rintro rfl; exact outside (by decide))
    rw [inId, or_iff_right outside, IsForeign, marks.1, marks.2, Bool.or_false, Bool.or_false]
    exact (and_iff_right (Nat.not_lt.1 ascii)).symm

/-- Is the id nonempty, of characters of the grammar and letters and numbers outside of ASCII? -/
def IsLettered (id : String) : Prop :=
  id ≠ "" ∧ ∀ c ∈ id.toList, InIdGrammar c ∨ IsForeign c

lemma isLettered_iff : IsLettered id ↔ id.isEmpty = false ∧ id.toList.all inId = true := by
  rw [IsLettered, List.all_eq_true, ← Bool.not_eq_true, String.isEmpty_iff]
  exact and_congr_right fun _ => forall₂_congr fun c _ => inId_iff.symm

/-- The ids of the grammar are those that pass and have nothing outside of ASCII in them. -/
lemma inIdGrammar_iff : (id ≠ "" ∧ ∀ c ∈ id.toList, InIdGrammar c) ↔
    IsLettered id ∧ ∀ c ∈ id.toList, c.toNat < 0x80 := by
  constructor
  · rintro ⟨some, grammar⟩
    exact ⟨⟨some, fun c hc => Or.inl (grammar c hc)⟩, fun c hc => (grammar c hc).ascii⟩
  · rintro ⟨⟨some, lettered⟩, ascii⟩
    refine ⟨some, fun c hc => (lettered c hc).resolve_right fun foreign => ?_⟩
    exact Nat.not_lt.2 foreign.1 (ascii c hc)

/-! ### Making settings -/

lemma make_empty (s : String) (pool : PoolOptions) : make "" s pool = .error .emptyId := rfl

lemma make_of_not_lettered (some : id ≠ "") (h : ¬IsLettered id) (s : String)
    (pool : PoolOptions) : make id s pool = .error (.invalidId id) := by
  have nonempty : id.isEmpty = false := by simpa using some
  rw [isLettered_iff, and_iff_right nonempty, Bool.not_eq_true] at h
  rw [make, nonempty, h]
  rfl

lemma make_of_unknown (h : IsLettered id) (unknown : DatabaseKind.ofConnectionString? s = none)
    (pool : PoolOptions) : make id s pool = .error (.unknownKind s) := by
  obtain ⟨nonempty, all⟩ := isLettered_iff.1 h
  rw [make, nonempty, all, unknown]
  rfl

lemma make_of_known {kind : DatabaseKind} (h : IsLettered id)
    (known : DatabaseKind.ofConnectionString? s = some kind) (pool : PoolOptions) :
    make id s pool = .ok ⟨id, kind, s, pool, none⟩ := by
  obtain ⟨nonempty, all⟩ := isLettered_iff.1 h
  rw [make, nonempty, all, known]
  rfl

lemma IsLettered.ne_empty (h : IsLettered id) : id ≠ "" := h.1

/-- The id is checked before the connection string, and that it is not empty before all else. -/
lemma make_cases (id s : String) (pool : PoolOptions) :
    id = "" ∧ make id s pool = .error .emptyId ∨
    (id ≠ "" ∧ ¬IsLettered id) ∧ make id s pool = .error (.invalidId id) ∨
    (IsLettered id ∧ DatabaseKind.ofConnectionString? s = none) ∧
      make id s pool = .error (.unknownKind s) ∨
    ∃ kind, (IsLettered id ∧ DatabaseKind.ofConnectionString? s = some kind) ∧
      make id s pool = .ok ⟨id, kind, s, pool, none⟩ := by
  rcases eq_or_ne id "" with rfl | some
  · exact Or.inl ⟨rfl, make_empty s pool⟩
  by_cases lettered : IsLettered id
  · cases found : DatabaseKind.ofConnectionString? s with
    | none => exact Or.inr (Or.inr (Or.inl ⟨⟨lettered, rfl⟩, make_of_unknown lettered found pool⟩))
    | some kind =>
      exact Or.inr (Or.inr (Or.inr ⟨kind, ⟨lettered, rfl⟩, make_of_known lettered found pool⟩))
  · exact Or.inr (Or.inl ⟨⟨some, lettered⟩, make_of_not_lettered some lettered s pool⟩)

/-- Settings are made if and only if the id is lettered and the connection string has a known start
in any case of its letters, whatever script the text around it is in; they are of the kind with that
start, and all else is kept as it is given. An empty id and any other bad id are refused for the id,
and only then is a connection string refused. An id follows the grammar if and only if it passes and
is all ASCII. -/
theorem accepts_lettered_ids (id s : String) (pool : PoolOptions) :
    (∀ c, make id s pool = .ok c ↔ IsLettered id ∧ c = ⟨id, c.kind, s, pool, none⟩ ∧
      ∃ word, (word, c.kind) ∈ DatabaseKind.schemes ∧ StartsIgnoringCase word s) ∧
    (∀ e, make id s pool = .error e ↔
      e = .emptyId ∧ id = "" ∨
      e = .invalidId id ∧ id ≠ "" ∧ ¬IsLettered id ∨
      e = .unknownKind s ∧ IsLettered id ∧
        ∀ scheme ∈ DatabaseKind.schemes, ¬StartsIgnoringCase scheme.1 s) ∧
    (∀ scheme ∈ DatabaseKind.schemes, ∀ lower, LowerCase s.toList lower →
      (scheme.1.toList <+: lower ↔ StartsIgnoringCase scheme.1 s)) ∧
    ((id ≠ "" ∧ ∀ c ∈ id.toList, InIdGrammar c) ↔
      IsLettered id ∧ ∀ c ∈ id.toList, c.toNat < 0x80) := by
  refine ⟨fun c => ?_, fun e => ?_,
    fun scheme known lower lowered => DatabaseKind.prefix_lowerCase_iff known lowered,
    inIdGrammar_iff⟩
  · rw [← DatabaseKind.ofConnectionString?_eq_some_iff]
    rcases make_cases id s pool with ⟨empty, made⟩ | ⟨⟨some, bad⟩, made⟩ | ⟨⟨good, none⟩, made⟩ |
      ⟨kind, ⟨good, known⟩, made⟩
    · rw [made]
      simp [IsLettered, empty]
    · simp [made, bad]
    · simp [made, none]
    · rw [made, known]
      constructor
      · rintro ⟨⟩
        exact ⟨good, rfl, rfl⟩
      · rintro ⟨-, same, kinds⟩
        rw [same, Option.some.inj kinds]
  · rw [← DatabaseKind.ofConnectionString?_eq_none_iff]
    -- the id is looked at before the scheme, which orders the refusals
    rcases make_cases id s pool with ⟨empty, made⟩ | ⟨⟨some, bad⟩, made⟩ | ⟨⟨good, none⟩, made⟩ |
      ⟨kind, ⟨good, known⟩, made⟩
    · rw [made]
      simp [IsLettered, empty, eq_comm]
    · simp [made, some, bad, eq_comm]
    · simp [made, good, good.ne_empty, none, eq_comm]
    · simp [made, good, good.ne_empty, known]

/-- An id of the grammar, with a start in mixed case and with one whose lower case has the dot of a
dotted capital I as a character of its own. -/
theorem accepts_lettered_ids_dotted :
    make "orders_1-b" "MariaDB://db/orders" PoolOptions.unset =
        .ok ⟨"orders_1-b", .mysql, "MariaDB://db/orders", PoolOptions.unset, none⟩ ∧
      LowerCase "SQL\u0130TE:a.db".toList "sqli\u0307te:a.db".toList ∧
      make "orders_1-b" "SQL\u0130TE:a.db" PoolOptions.unset =
        .error (.unknownKind "SQL\u0130TE:a.db") := by
  have grammar : "orders_1-b".toList.all (fun c => decide (InIdGrammar c)) = true := by
    decide +kernel
  have lettered : IsLettered "orders_1-b" :=
    ⟨by decide, fun c hc => Or.inl (of_decide_eq_true (List.all_eq_true.1 grammar c hc))⟩
  have lowered : LowerCase "SQL\u0130TE:a.db".toList "sqli\u0307te:a.db".toList := by
    -- the dotted capital becomes two characters, and no scheme begins with them
    have forms := lowerCase_flatMap "SQL\u0130TE:a.db".toList
    have text : ("SQL\u0130TE:a.db".toList.flatMap fun c => (lowerForms c).headD []) =
        "sqli\u0307te:a.db".toList := by
      decide +kernel
    rwa [text] at forms
  obtain ⟨made, -, -, -⟩ :=
    accepts_lettered_ids "orders_1-b" "MariaDB://db/orders" PoolOptions.unset
  obtain ⟨-, refused, script, -⟩ :=
    accepts_lettered_ids "orders_1-b" "SQL\u0130TE:a.db" PoolOptions.unset
  refine ⟨(made _).2 ⟨lettered, rfl, "mariadb://", by decide, ?_⟩, lowered,
    (refused _).2 (Or.inr (Or.inr ⟨rfl, lettered, fun scheme known starts => ?_⟩))⟩
  · exact ⟨"MariaDB://".toList, "db/orders".toList, by decide +kernel, by decide +kernel⟩
  · have begins := (script scheme known _ lowered).2 starts
    have apart : ∀ scheme ∈ DatabaseKind.schemes,
        ¬scheme.1.toList <+: "sqli\u0307te:a.db".toList := by
      decide +kernel
    exact apart scheme known begins

/-- A letter outside of ASCII is not in the grammar of ids, and passes. -/
theorem accepts_foreign_letter :
    make "b\u00FCcher" "sqlite:a.db" PoolOptions.unset =
        .ok ⟨"b\u00FCcher", .sqlite, "sqlite:a.db", PoolOptions.unset, none⟩ ∧
      '\u00FC' ∈ "b\u00FCcher".toList ∧ ¬InIdGrammar '\u00FC' := by
  decide +kernel

end ConnectionConfig

end NestedTx
