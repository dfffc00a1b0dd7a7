import NestedTx.Proofs.Server.Query

/-!
# Parameters on the wire

A statement with parameters is sent with one argument for each of them, in their order. The type and
the bytes of an argument tell which parameter it stands for, so that no two lists of parameters are
sent alike, and a column of PostgreSQL that holds an argument is decoded to its parameter. A server
that has a use for all arguments, and has not prepared the text for others, logs them as sent.
-/

namespace NestedTx

open Text Wire

/-! ### What an argument stands for -/

namespace Param

/-- Integers are those of 64 bits. -/
def IsValid : Param → Prop
  | int i => minI64 ≤ i ∧ i ≤ maxI64
  | _ => True

lemma IsValid.lower {i : Int} (valid : (int i).IsValid) : -256 ^ 8 ≤ 2 * i := by
  have lower : -9223372036854775808 ≤ i := valid.1
  omega

lemma IsValid.upper {i : Int} (valid : (int i).IsValid) : 2 * i < 256 ^ 8 := by
  have upper : i ≤ 9223372036854775807 := valid.2
  omega

/-- The JSON value that a parameter is decoded to when it is read back. -/
def readBack : Param → Json
  | null => .null
  | bool b => .bool b
  | int i => .int i
  | float x => floatJson x
  | str s => .str s
  | bytes bs => binaryJson bs

end Param

namespace Wire

/-- How a kind of server takes arguments that are not NULL: the types that it has for them, and the
unsigned number that bytes stand for. -/
structure ArgumentForm where
  bool : ArgumentType
  integer : ArgumentType
  float : ArgumentType
  text : ArgumentType
  bytes : ArgumentType
  number : List UInt8 → Nat

/-- How servers of the given kind take arguments. -/
def argumentForm (kind : DatabaseKind) : ArgumentForm :=
  if kind = .mysql then ⟨.code 1, .code 8, .code 5, .code 253, .code 252, natOfLittle⟩
  else ⟨.word "BOOL", .word "INT8", .word "FLOAT8", .word "TEXT", .word "BYTEA", natOfBig⟩

namespace ArgumentForm

variable {f : ArgumentForm} {a : Argument} {p q : Param}

/-- The types of arguments. -/
def types (f : ArgumentForm) : List ArgumentType :=
  [f.bool, f.integer, f.float, f.text, f.bytes]

/-- Does the argument stand for the parameter? A number has eight bytes: those of an integer are
its two's complement, and those of a floating-point number are its bits. -/
def Carries (f : ArgumentForm) (a : Argument) : Param → Prop
  | .null => a.value = none
  | .bool b => a.type = f.bool ∧ a.value = some [if b then 1 else 0]
  | .int i => a.type = f.integer ∧
      ∃ bs, a.value = some bs ∧ bs.length = 8 ∧ signed 8 (f.number bs) = i
  | .float x => a.type = f.float ∧
      ∃ bs, a.value = some bs ∧ bs.length = 8 ∧ f.number bs = x.bits.toNat
  | .str s => a.type = f.text ∧ a.value = some (utf8 s.toList)
  | .bytes bs => a.type = f.bytes ∧ a.value = some bs

/-- An argument stands for one parameter only, if no two types are the same. -/
lemma Carries.unique (distinct : f.types.Nodup) (hp : f.Carries a p) (hq : f.Carries a q) :
    p = q := by
  -- the types differ, so only parameters of one kind can share an argument
  cases p with
  | null => cases q <;> simp_all [Carries]
  | bool b =>
    cases q with
    | bool c => cases b <;> cases c <;> simp_all [Carries]
    | _ => simp_all [Carries, types]
  | int i =>
    cases q with
    | int j =>
      obtain ⟨-, bs, value, -, rfl⟩ := hp
      obtain ⟨-, bs', value', -, rfl⟩ := hq
      rw [Option.some.inj (value.symm.trans value')]
    | _ => simp_all [Carries, types]
  | float x =>
    cases q with
    | float y =>
      obtain ⟨-, bs, value, -, bits⟩ := hp
      obtain ⟨-, bs', value', -, bits'⟩ := hq
      rw [Option.some.inj (value.symm.trans value'), bits'] at bits
      have same : y = x := congrArg Binary64.mk (UInt64.toNat_inj.1 bits)
      rw [same]
    | _ => simp_all [Carries, types]
  | str s =>
    cases q with
    | str t =>
      -- two texts of the same bytes are the same, since the bytes are read back
      have same : some s.toList = some t.toList := by
        rw [← utf8Decode?_utf8, Option.some.inj (hp.2.symm.trans hq.2), utf8Decode?_utf8]
      rw [String.toList_inj.1 (Option.some.inj same)]
    | _ => simp_all [Carries, types]
  | bytes bs =>
    cases q with
    | bytes cs => rw [Option.some.inj (hp.2.symm.trans hq.2)]
    | _ => simp_all [Carries, types]

end ArgumentForm

lemma nodup_types_argumentForm (kind : DatabaseKind) : (argumentForm kind).types.Nodup := by
  cases kind <;> decide

/-- The argument for a parameter on servers of the given kind. -/
def argument (kind : DatabaseKind) : Param → Argument :=
  if kind = .mysql then mysqlArgument else postgresArgument

/-- A parameter is sent as an argument that stands for it. -/
lemma carries_argument (kind : DatabaseKind) {p : Param} (valid : p.IsValid) :
    (argumentForm kind).Carries (argument kind p) p := by
  have bits (x : Binary64) : x.bits.toNat < 256 ^ 8 := x.bits.toNat_lt
  rw [argumentForm, argument]
  split_ifs
  · cases p with
    | null => rfl
    | int i =>
      have read := intOfLittle_littleOfInt valid.lower valid.upper
      rw [intOfLittle, length_littleOfInt] at read
      exact ⟨rfl, _, rfl, length_littleOfInt 8 i, read⟩
    | float x =>
      exact ⟨rfl, _, rfl, length_littleOfNat 8 _, natOfLittle_littleOfNat_of_lt (bits x)⟩
    | _ => exact ⟨rfl, rfl⟩
  · cases p with
    | null => rfl
    | int i =>
      have read := intOfBig_bigOfInt valid.lower valid.upper
      rw [intOfBig, length_bigOfInt] at read
      exact ⟨rfl, _, rfl, length_bigOfInt 8 i, read⟩
    | float x =>
      exact ⟨rfl, _, rfl, length_bigOfNat 8 _, natOfBig_bigOfNat_of_lt (bits x)⟩
    | _ => exact ⟨rfl, rfl⟩

/-- Parameters are sent as arguments that stand for them, one by one. -/
lemma forall₂_carries (kind : DatabaseKind) {params : List Param}
    (valid : ∀ p ∈ params, p.IsValid) :
    List.Forall₂ (argumentForm kind).Carries (params.map (argument kind)) params :=
  List.forall₂_map_left_iff.2 (List.forall₂_same.2 fun p hp => carries_argument kind (valid p hp))

/-- Arguments stand for one list of parameters only. -/
lemma eq_of_forall₂_carries {kind : DatabaseKind} {args : List Argument}
    {params others : List Param}
    (h : List.Forall₂ (argumentForm kind).Carries args params)
    (h' : List.Forall₂ (argumentForm kind).Carries args others) : params = others :=
  List.right_unique_forall₂' (fun _ _ _ hp hq => hp.unique (nodup_types_argumentForm kind) hq) h h'

/-! ### Reading arguments back -/

/-- The bits of a floating-point number are read back. -/
lemma value?_float8 (x : Binary64) :
    Postgres.value? .binary "FLOAT8" (bigOfNat 8 x.bits.toNat) = some (floatJson x) := by
  have category : Category.ofType "FLOAT8" .postgresql = .float := by decide +kernel
  have length := length_bigOfNat 8 x.bits.toNat
  have value : natOfBig (bigOfNat 8 x.bits.toNat) = x.bits.toNat :=
    natOfBig_bigOfNat_of_lt x.bits.toNat_lt
  have read : Postgres.readFloat64? .binary "FLOAT8" (bigOfNat 8 x.bits.toNat) = some x := by
    simp only [Postgres.readFloat64?, length, Nat.le_refl, if_true,
      List.take_of_length_le (Nat.le_of_eq length), value, UInt64.ofNat_toNat]
  simp only [Postgres.value?, category, read, Option.some_or, Option.map_some]

/-- An argument in a column of its type is decoded to its parameter. -/
lemma decode_postgresArgument {p : Param} (valid : p.IsValid) {type : String}
    (typed : .word type = (postgresArgument p).type) :
    ((postgresArgument p).value.bind (Postgres.value? .binary type)).getD .null = p.readBack := by
  cases p with
  | null => rfl
  | bool b =>
    cases typed
    have read : Postgres.value? .binary "BOOL" [boolByte b] = some (.bool b) :=
      Postgres.Datum.value?_encode .binary (.bool b)
    simp only [postgresArgument, Option.bind_some, read]
    rfl
  | int i =>
    cases typed
    have read : Postgres.value? .binary "INT8" (bigOfInt 8 i) = some (.int i) :=
      Postgres.Datum.value?_encode .binary (.integer .int8 ⟨i, valid.lower, valid.upper⟩)
    simp only [postgresArgument, Option.bind_some, read]
    rfl
  | float x =>
    cases typed
    simp only [postgresArgument, Option.bind_some, value?_float8]
    rfl
  | str s =>
    cases typed
    have read : Postgres.value? .binary "TEXT" (utf8 s.toList) = some (charsJson s.toList) :=
      Postgres.Datum.value?_encode .binary (.text "TEXT" (by decide) s.toList)
    simp only [postgresArgument, Option.bind_some, read]
    simp [charsJson, Param.readBack]
  | bytes bs =>
    cases typed
    have read : Postgres.value? .binary "BYTEA" bs = some (binaryJson bs) :=
      Postgres.Datum.value?_encode .binary (.bytea bs)
    simp only [postgresArgument, Option.bind_some, read]
    rfl

/-- A row of arguments in columns of their types is decoded to their parameters. -/
lemma decode_row_postgresArgument {columns : List Column} {params : List Param}
    (valid : ∀ p ∈ params, p.IsValid)
    (typed : columns.map (fun c => .word c.type) = params.map fun p => (postgresArgument p).type) :
    columns.zipWith (fun (c : Column) (v : Cell) =>
        ((v.bind (Postgres.value? .binary c.type)).getD .null))
      (params.map fun p => (postgresArgument p).value) = params.map Param.readBack := by
  induction params generalizing columns with
  | nil => rw [List.map_nil, List.zipWith_nil_right, List.map_nil]
  | cons p params ih =>
    obtain ⟨first, others⟩ := List.forall_mem_cons.1 valid
    cases columns with
    | nil => cases typed
    | cons c columns =>
      rw [List.map_cons, List.map_cons] at typed
      obtain ⟨type, types⟩ := List.cons.inj typed
      rw [List.map_cons, List.zipWith_cons_cons, List.map_cons, ih others types,
        decode_postgresArgument first type]

end Wire

/-- A row of arguments in columns of their types is decoded to their parameters, under the names of
the columns. -/
lemma decode_arguments {columns : List Column} {params : List Param}
    (valid : ∀ p ∈ params, p.IsValid)
    (typed : columns.map (fun c => .word c.type) = params.map fun p => (postgresArgument p).type) :
    (Table.mk columns [params.map fun p => (postgresArgument p).value]).decode
        (Postgres.value? .binary) =
      ⟨columns.map (·.name), [params.map Param.readBack]⟩ := by
  rw [Table.decode, if_neg (List.cons_ne_nil _ _), List.map_singleton,
    decode_row_postgresArgument valid typed]

/-! ### Sending statements -/

namespace Statement

variable {kind : DatabaseKind} {st other : Statement}

lemma sent_of_no_params (empty : st.params = []) : st.sent kind = .text st.sql := by
  rw [sent, message, if_pos empty]

lemma sent_of_params (some : st.params ≠ []) :
    st.sent kind = .prepared st.sql (st.params.map (argument kind)) := by
  rw [sent, message, if_neg some]
  rfl

lemma sql_sent : (st.sent kind).sql = st.sql := by
  rw [sent, message]
  split_ifs <;> rfl

/-- A message tells the statement that it is sent for. -/
lemma eq_of_sent (valid : ∀ p ∈ st.params, p.IsValid) (valid' : ∀ p ∈ other.params, p.IsValid)
    (same : other.sent kind = st.sent kind) : other = st := by
  have sql : other.sql = st.sql := by
    rw [← @sql_sent kind other, same, sql_sent]
  have params : other.params = st.params := by
    by_cases empty : st.params = [] <;> by_cases empty' : other.params = []
    · rw [empty, empty']
    · rw [sent_of_params empty', sent_of_no_params empty] at same
      cases same
    · rw [sent_of_no_params empty', sent_of_params empty] at same
      cases same
    · rw [sent_of_params empty', sent_of_params empty] at same
      have carried := forall₂_carries kind valid'
      rw [(Message.prepared.inj same).2] at carried
      exact eq_of_forall₂_carries carried (forall₂_carries kind valid)
  obtain ⟨sql', params'⟩ := other
  cases sql
  cases params
  rfl

end Statement

/-! ### What a server makes of a message -/

/-- Does a server have to take the arguments of a statement as they are sent? MySQL's has a question
mark for each of them, and PostgreSQL's has not prepared the text on this connection for arguments
of other types, which it would go on to use. -/
structure ScriptedLink.Takes (link : ScriptedLink) (kind : DatabaseKind) (st : Statement) :
    Prop where
  speaks : link.isSilent = false
  marks : kind = .mysql → st.params.length ≤ st.sql.toList.count '?'
  types : kind ≠ .mysql → ∀ entry ∈ link.prepared, entry.1 = st.sql →
    entry.2 = st.params.map fun p => (argument kind p).type

namespace ScriptedServer

variable {kind : DatabaseKind} {link : ScriptedLink} {st : Statement}

lemma preparedTypes_of_takes (takes : link.Takes kind st) (hk : kind ≠ .mysql) :
    preparedTypes link st.sql (st.params.map (argument kind)) =
      st.params.map fun p => (argument kind p).type := by
  rw [preparedTypes]
  cases found : link.prepared.find? (·.1 == st.sql) with
  | none => simp
  | some entry =>
    have text := List.find?_some found
    rw [Option.map_some, Option.getD_some]
    exact takes.types hk entry (List.mem_of_find?_eq_some found) (beq_iff_eq.1 text)

/-- Arguments that are taken as they are sent make the same message. -/
lemma received_sent (takes : link.Takes kind st) :
    received kind link (st.sent kind) = st.sent kind := by
  by_cases empty : st.params = []
  · rw [Statement.sent_of_no_params empty]
    rfl
  rw [Statement.sent_of_params empty, received]
  split_ifs with hk
  · rw [List.take_of_length_le]
    rw [List.length_map]
    exact takes.marks hk
  · rw [preparedTypes_of_takes takes hk, List.zipWith_map, List.zipWith_self]

/-- A message that is answered is logged as it was received. -/
lemma log_answer {server : ScriptedServer} {m : Message} (speaks : link.isSilent = false) :
    (server.answer link m).2.1.log = server.log ++ [received server.kind link m] := by
  rw [answer, speaks]
  rfl

end ScriptedServer

namespace Service

variable {s : Service} {c : ConnectionId} {link : ScriptedLink} {listener : Listener}
  {r : ResourceId} {res : PooledResource}

/-- The server that is sent a statement has had its message. -/
lemma listener_sendOn (kind : DatabaseKind) (st : Statement)
    (hc : s.links[c.index]? = some (.scripted link)) (hl : s.listener = some listener) :
    (s.sendOn kind c st).2.listener =
      some { listener with server := (listener.server.answer link (st.sent kind)).2.1 } := by
  simp only [sendOn, hc, hl]
  rfl

/-- A statement is executed or queried by one message to its server: its bare text if it has no
parameters, and otherwise its text with one argument for each parameter, which stands for that
parameter and for no other. So the message tells the statement, and it is what the server logs if
it has to take the arguments as they are sent. For PostgreSQL, a row of the arguments in columns of
their types is decoded to the parameters. -/
theorem parameters_arrive (st : Statement) (hc : s.links[c.index]? = some (.scripted link))
    (hl : s.listener = some listener) (valid : ∀ p ∈ st.params, p.IsValid) :
    (∀ after ∈ [(connectionReply r res (.execute c st) s).2,
        (connectionReply r res (.query c st) s).2],
      after.listener = some { listener with
        server := (listener.server.answer link (st.sent res.kind)).2.1 }) ∧
    (listener.server.kind = res.kind → link.Takes res.kind st →
      (listener.server.answer link (st.sent res.kind)).2.1.log =
        listener.server.log ++ [st.sent res.kind]) ∧
    (st.params = [] → st.sent res.kind = .text st.sql) ∧
    (st.params ≠ [] → ∃ args, st.sent res.kind = .prepared st.sql args ∧
      List.Forall₂ (argumentForm res.kind).Carries args st.params ∧
      (∀ params, List.Forall₂ (argumentForm res.kind).Carries args params → params = st.params) ∧
      (res.kind = .postgresql → ∀ columns : List Column,
        columns.map (fun c => ArgumentType.word c.type) = args.map (·.type) →
          (Table.mk columns [args.map (·.value)]).decode (Postgres.value? .binary) =
            ⟨columns.map (·.name), [st.params.map Param.readBack]⟩)) ∧
    (argumentForm res.kind).types.Nodup ∧
    ∀ other : Statement, (∀ p ∈ other.params, p.IsValid) →
      other.sent res.kind = st.sent res.kind → other = st := by
  refine ⟨?_, fun hk takes => ?_, Statement.sent_of_no_params, fun some => ?_,
    nodup_types_argumentForm res.kind,
    fun other valid' same => Statement.eq_of_sent valid valid' same⟩
  · intro after hafter
    have heard := listener_sendOn res.kind st hc hl
    rcases List.mem_cons.1 hafter with rfl | hafter
    · exact heard
    · rw [List.mem_singleton.1 hafter]
      exact heard
  · rw [ScriptedServer.log_answer takes.speaks, hk, ScriptedServer.received_sent takes]
  · have carried := forall₂_carries res.kind valid
    refine ⟨_, Statement.sent_of_params some, carried,
      fun params h => eq_of_forall₂_carries h carried, fun postgresql columns typed => ?_⟩
    rw [postgresql, List.map_map] at typed
    rw [postgresql, List.map_map]
    exact decode_arguments valid typed

/-- A negative integer, NULL and a text with a letter of two bytes, sent to a server that has not had
the text before. -/
theorem parameters_arrive_mixed :
    let st : Statement := ⟨"CALL f($1, $2, $3)", [.int (-2), .null, .str "ä"]⟩
    let args : List Argument :=
      [⟨.word "INT8", some [255, 255, 255, 255, 255, 255, 255, 254]⟩, ⟨.word "TEXT", none⟩,
        ⟨.word "TEXT", some [0xC3, 0xA4]⟩]
    (∀ p ∈ st.params, p.IsValid) ∧ st.sent .postgresql = .prepared st.sql args ∧
      List.Forall₂ (argumentForm .postgresql).Carries args st.params ∧
      (Table.mk [⟨"i", "INT8"⟩, ⟨"n", "TEXT"⟩, ⟨"s", "TEXT"⟩] [args.map (·.value)]).decode
        (Postgres.value? .binary) = ⟨["i", "n", "s"], [[.int (-2), .null, .str "ä"]]⟩ ∧
      ∃ (s : Service) (res : PooledResource), res.kind = .postgresql ∧
        (connectionReply ⟨0⟩ res (.execute ⟨0⟩ st) s).2.listener.map (·.server.log) =
          some [.prepared st.sql args] := by
  intro st args
  let server : Listener := ⟨[], 0, ⟨.postgresql, [], none, []⟩⟩
  let serving : Service :=
    { empty with links := [.scripted ⟨false, []⟩], listener := some server }
  let res : PooledResource := ⟨.postgresql, .temporary, Pool.new 1, 30000⟩
  have valid : ∀ p ∈ st.params, p.IsValid := by
    intro p hp
    rcases List.mem_cons.1 hp with rfl | hp
    · exact ⟨by decide, by decide⟩
    · rcases List.mem_cons.1 hp with rfl | hp
      · trivial
      · rw [List.mem_singleton.1 hp]
        trivial
  obtain ⟨heard, logged, -, arrive, -, -⟩ :=
    @parameters_arrive serving ⟨0⟩ ⟨false, []⟩ server ⟨0⟩ res st rfl rfl valid
  obtain ⟨args', sent, carried, -, read⟩ := arrive (List.cons_ne_nil _ _)
  have bytes : st.sent .postgresql = .prepared st.sql args := by decide +kernel
  obtain rfl : args = args' := (Message.prepared.inj (bytes.symm.trans sent)).2
  have takes : ScriptedLink.Takes ⟨false, []⟩ .postgresql st :=
    { speaks := rfl, marks := nofun, types := fun _ => List.forall_mem_nil _ }
  refine ⟨valid, bytes, carried, read rfl _ rfl, serving, res, rfl, ?_⟩
  rw [heard _ List.mem_cons_self, Option.map_some, logged rfl takes, sent]
  rfl

end Service

end NestedTx
