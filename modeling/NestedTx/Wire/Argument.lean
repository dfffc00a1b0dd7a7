import NestedTx.Value.Param
import NestedTx.Wire.Integer

/-!
# Arguments on the wire

A statement without parameters is sent as its text. One with parameters is prepared, and each
parameter is sent as an argument with a type and its binary form.
-/

namespace NestedTx.Wire

open Text

/-- The type of an argument, as the server names it: by a word or by a number. -/
inductive ArgumentType where
  | word (name : String)
  | code (n : Nat)
  deriving Repr, DecidableEq

/-- A typed argument; NULL has no bytes. -/
structure Argument where
  type : ArgumentType
  value : Option (List UInt8)
  deriving Repr, DecidableEq

/-- A statement as it is sent. -/
inductive Message where
  | text (sql : String)
  | prepared (sql : String) (arguments : List Argument)
  deriving Repr, DecidableEq

/-- The text of a message. -/
def Message.sql : Message → String
  | text sql => sql
  | prepared sql _ => sql

/-- The byte of a truth value. -/
def boolByte (b : Bool) : UInt8 :=
  if b then 1 else 0

/-- A parameter for PostgreSQL: numbers have their most significant byte first. -/
def postgresArgument : Param → Argument
  | .null => ⟨.word "TEXT", none⟩
  | .bool b => ⟨.word "BOOL", some [boolByte b]⟩
  | .int i => ⟨.word "INT8", some (bigOfInt 8 i)⟩
  | .float x => ⟨.word "FLOAT8", some (bigOfNat 8 x.bits.toNat)⟩
  | .str s => ⟨.word "TEXT", some (utf8 s.toList)⟩
  | .bytes bs => ⟨.word "BYTEA", some bs⟩

/-- A parameter for MySQL: numbers have their least significant byte first. -/
def mysqlArgument : Param → Argument
  | .null => ⟨.code 253, none⟩
  | .bool b => ⟨.code 1, some [boolByte b]⟩
  | .int i => ⟨.code 8, some (littleOfInt 8 i)⟩
  | .float x => ⟨.code 5, some (littleOfNat 8 x.bits.toNat)⟩
  | .str s => ⟨.code 253, some (utf8 s.toList)⟩
  | .bytes bs => ⟨.code 252, some bs⟩

/-- The message for a statement, with each parameter encoded in turn. -/
def message (encode : Param → Argument) (s : Statement) : Message :=
  if s.params = [] then .text s.sql else .prepared s.sql (s.params.map encode)

end NestedTx.Wire
