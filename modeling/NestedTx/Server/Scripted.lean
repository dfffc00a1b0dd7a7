import NestedTx.Server.Outcome
import NestedTx.Wire.Argument
import NestedTx.Wire.Postgres
import NestedTx.Wire.MySql

/-!
# A scripted server

A server that knows no SQL. It keeps a log of the statements it gets and answers them by rules:
the first rule that fits the beginning of a statement and is not used up gives the answer. A
statement that no rule fits succeeds and does nothing.
-/

namespace NestedTx

open Wire

/-- What a rule makes of a statement. -/
inductive ScriptedAnswer where
  | silence
  | refusal (code message : String)
  | counts (affected lastId : Nat)
  | table (t : Table)
  deriving Repr

/-- A rule: the beginning of the statements it is for, how often it may still be used, and what it
answers. -/
structure ScriptedRule where
  beginning : String
  uses : Option Nat
  answer : ScriptedAnswer
  deriving Repr

/-- The server: the kind it plays, its rules, the error it meets every login with, and its log. -/
structure ScriptedServer where
  kind : DatabaseKind
  rules : List ScriptedRule
  refusal : Option (String × String)
  log : List Message
  deriving Repr

/-- The server's end of a connection: whether it has fallen silent, and the types of the arguments
that each statement was prepared with. -/
structure ScriptedLink where
  isSilent : Bool
  prepared : List (String × List ArgumentType)
  deriving Repr, Inhabited

namespace ScriptedServer

/-- Does the rule fit the statement? -/
def fits (sql : String) (r : ScriptedRule) : Bool :=
  r.beginning.toList.isPrefixOf sql.toList && r.uses != some 0

/-- Uses up the first rule that fits. -/
def useRule (sql : String) : List ScriptedRule → Option ScriptedAnswer × List ScriptedRule
  | [] => (none, [])
  | r :: rest =>
    if fits sql r then (some r.answer, { r with uses := r.uses.map (· - 1) } :: rest)
    else
      let (answer, rest) := useRule sql rest
      (answer, r :: rest)

/-- The error of a server of the given kind. MySQL puts an error number in front. -/
def serverError (kind : DatabaseKind) (code message : String) : DriverError :=
  .database message (some code)
    (if kind = .mysql then "1105 (" ++ code ++ "): " ++ message else message)

/-- The form in which a statement is answered. -/
def formatOf : Message → Format
  | .text _ => .text
  | .prepared _ _ => .binary

/-- The values of a server of the given kind. -/
def valueOf (kind : DatabaseKind) : Format → String → List UInt8 → Option Json :=
  if kind = .mysql then MySql.value? else Postgres.value?

/-- The outcome that a rule gives. Rows that are sent count as affected for PostgreSQL, and not for
MySQL. -/
def outcome (kind : DatabaseKind) (m : Message) : Option ScriptedAnswer → Outcome
  | none => .success ⟨0, 0, Rows.empty⟩
  | some .silence => .silence
  | some (.refusal code message) => .failure (serverError kind code message)
  | some (.counts affected lastId) => .success ⟨affected, lastId, Rows.empty⟩
  | some (.table t) =>
    .success ⟨if kind = .mysql then 0 else t.rows.length, 0, t.decode (valueOf kind (formatOf m))⟩

/-- The types a statement was prepared with on a connection, which stay those of its first use. -/
def preparedTypes (link : ScriptedLink) (sql : String) (arguments : List Argument) :
    List ArgumentType :=
  ((link.prepared.find? (·.1 == sql)).map (·.2)).getD (arguments.map (·.type))

/-- A message as the server sees it. PostgreSQL reads the arguments by the types the statement was
prepared with, MySQL as many as the statement has question marks. -/
def received (kind : DatabaseKind) (link : ScriptedLink) : Message → Message
  | .text sql => .text sql
  | .prepared sql arguments =>
    if kind = .mysql then .prepared sql (arguments.take (sql.toList.count '?'))
    else
      .prepared sql ((preparedTypes link sql arguments).zipWith (fun t a => ⟨t, a.value⟩) arguments)

/-- The connection after a message was prepared on it. -/
def prepare (link : ScriptedLink) : Message → ScriptedLink
  | .text _ => link
  | .prepared sql arguments =>
    { link with
      prepared := link.prepared ++
        (if link.prepared.any (·.1 == sql) then [] else [(sql, arguments.map (·.type))]) }

/-- Answers a message on a connection. A connection that has fallen silent stays silent. -/
def answer (s : ScriptedServer) (link : ScriptedLink) (m : Message) :
    Option ScriptedAnswer × ScriptedServer × ScriptedLink :=
  if link.isSilent then (some .silence, s, link)
  else
    let (found, rules) := useRule m.sql s.rules
    let isSilent := match found with
      | some .silence => true
      | _ => false
    (found, { s with rules := rules, log := s.log ++ [received s.kind link m] },
      { prepare link m with isSilent := isSilent })

/-- The types of columns that hold a text. -/
def isTextType (kind : DatabaseKind) (type : String) : Bool :=
  if kind = .mysql then
    Category.ofType type .mysql == .text && !MySql.undecodedTypes.contains type
  else Postgres.textTypes.contains type

/-- The first value of an answer, if it is a text. -/
def firstText? (kind : DatabaseKind) : Option ScriptedAnswer → Option String
  | some (.table t) => do
    let column ← t.columns.head?
    let bytes ← (← (← t.rows.head?).head?)
    if isTextType kind column.type then (Text.utf8Decode? bytes).map String.ofList else none
  | _ => none

end ScriptedServer

end NestedTx
