import NestedTx.Value.Param
import NestedTx.Value.Category
import NestedTx.Wire.Basic
import NestedTx.Binary64.Read
import NestedTx.Error.Driver

/-!
# A little SQL

The statements that an embedded database is asked: transaction control, queries for constants and
parameters, and the statements on one table of items with an id and an amount each. Keywords may
be written in any case.
-/

namespace NestedTx.Sql

open Text

/-- A value as an embedded database stores it. -/
inductive Value where
  | null
  | integer (i : Int)
  | real (x : Binary64)
  | text (s : String)
  | blob (bs : List UInt8)
  deriving Repr, DecidableEq

namespace Value

/-- The value that a parameter is stored as. NaN is stored as NULL. -/
def ofParam : Param → Value
  | .null => null
  | .bool b => integer (if b then 1 else 0)
  | .int i => integer i
  | .float x => if x.isNaN then null else real x
  | .str s => text s
  | .bytes bs => blob bs

/-- The name of the storage class of a value. -/
def typeName : Value → String
  | null => "null"
  | integer _ => "integer"
  | real _ => "real"
  | text _ => "text"
  | blob _ => "blob"

/-- A value as it is read: by its storage class, not by the type of its column. -/
def toJson : Value → Json
  | null => .null
  | integer i => .int i
  | real x => Wire.floatJson x
  | text s => .str s
  | blob bs => Wire.binaryJson bs

end Value

/-- A piece of a statement. -/
inductive Token where
  | word (cs : List Char)
  | number (cs : List Char)
  | text (cs : List Char)
  | blob (cs : List Char)
  | placeholder (n : Option Nat)
  | mark (c : Char)
  deriving Repr, DecidableEq

namespace Token

/-- Is the token a keyword? -/
def isKeyword (t : Token) (k : String) : Bool :=
  match t with
  | word cs => lowercase cs == k.toList
  | _ => false

/-- A token as it is written. -/
def spelling : Token → List Char
  | word cs => cs
  | number cs => cs
  | text cs => '\'' :: (cs.flatMap fun c => if c = '\'' then ['\'', '\''] else [c]) ++ ['\'']
  | blob cs => 'x' :: '\'' :: cs ++ ['\'']
  | placeholder none => ['?']
  | placeholder (some n) => '?' :: decimal n
  | mark c => [c]

end Token

/-- May the character stand in a word? -/
def inWord (c : Char) : Bool :=
  c.isAlphanum || c == '_' || 0x80 ≤ c.toNat

/-- A text up to its closing quote, in which a quote is written twice, and what follows. -/
def takeQuoted? : List Char → Option (List Char × List Char)
  | [] => none
  | '\'' :: '\'' :: rest => (takeQuoted? rest).map fun (cs, r) => ('\'' :: cs, r)
  | '\'' :: rest => some ([], rest)
  | c :: rest => (takeQuoted? rest).map fun (cs, r) => (c :: cs, r)

/-- The next token, for a text that begins with neither a blank nor the end. -/
def nextToken? (c : Char) (rest : List Char) : Option (Token × List Char) :=
  if c = '\'' then (takeQuoted? rest).map fun (cs, r) => (.text cs, r)
  else if (c = 'x' ∨ c = 'X') ∧ rest.head? = some '\'' then
    (takeQuoted? (rest.drop 1)).map fun (cs, r) => (.blob cs, r)
  else if c = '?' then
    some (.placeholder (digits? (rest.takeWhile isDigit)), rest.dropWhile isDigit)
  else if isDigit c then
    let inNumber := fun d : Char => d.isAlphanum || d == '.'
    some (.number (c :: rest.takeWhile inNumber), rest.dropWhile inNumber)
  else if inWord c then some (.word (c :: rest.takeWhile inWord), rest.dropWhile inWord)
  else some (.mark c, rest)
where
  digits? (ds : List Char) : Option Nat :=
    if ds = [] then none else ds.foldlM (fun acc c => (digit? c).map (10 * acc + ·)) 0

/-- The tokens of a text. Each takes up at least one character. -/
def tokens? : (fuel : Nat) → List Char → Option (List Token)
  | 0, _ => some []
  | _, [] => some []
  | fuel + 1, c :: rest =>
    if c.isWhitespace || c == ';' then tokens? fuel rest
    else do
      let (t, rest) ← nextToken? c rest
      return t :: (← tokens? fuel rest)

/-- A column of a query for constants. -/
structure Constant where
  name : String
  value : Value
  deriving Repr, DecidableEq

/-- What a statement asks for. -/
inductive Command where
  | begin
  | commit
  | rollback
  | savepoint (name : String)
  | rollbackTo (name : String)
  | insert (id amount : Value)
  | update (id amount : Value)
  | delete (id : Value)
  | amountOf (id : Value)
  | count
  | all
  | constants (columns : List Constant) (rows : Nat)
  deriving Repr, DecidableEq

/-- The error for a statement that cannot be carried out. -/
def sqlError (code : Nat) (message : String) : DriverError :=
  .database message (some (toString code)) ("(code: " ++ toString code ++ ") " ++ message)

/-- The error at a token that does not belong where it stands. -/
def syntaxErrorAt (t : Option Token) : DriverError :=
  match t with
  | some t => sqlError 1 ("near \"" ++ String.ofList t.spelling ++ "\": syntax error")
  | none => sqlError 1 "incomplete input"

/-- The value of a number. A number that is too large for an integer is a floating-point one. -/
def numberValue? (negative : Bool) (cs : List Char) : Option Value :=
  let signed := if negative then '-' :: cs else cs
  match int64? signed with
  | some i => some (.integer i)
  | none => (Binary64.read? signed).map .real

/-- The parameter with the given number, counted from one. -/
def paramAt (params : List Param) (n : Nat) : Value :=
  ((params[n - 1]?).map Value.ofParam).getD .null

/-- Reads a constant: its value and how it is written. Placeholders without a number count on from
`next`. -/
def constant? (params : List Param) (next : Nat) : List Token →
    Option (Value × List Char × Nat × List Token)
  | .number cs :: rest => (numberValue? false cs).map fun v => (v, cs, next, rest)
  | .mark '-' :: .number cs :: rest =>
    (numberValue? true cs).map fun v => (v, '-' :: cs, next, rest)
  | .text cs :: rest => some (.text (String.ofList cs), Token.spelling (.text cs), next, rest)
  | .blob cs :: rest =>
    (bytesOfHex? cs).map fun bs => (.blob bs, Token.spelling (.blob cs), next, rest)
  | .placeholder (some n) :: rest =>
    some (paramAt params n, Token.spelling (.placeholder (some n)), next, rest)
  | .placeholder none :: rest => some (paramAt params next, ['?'], next + 1, rest)
  | .word cs :: .mark '(' :: .placeholder (some n) :: .mark ')' :: rest =>
    if lowercase cs = "typeof".toList then
      some (.text (paramAt params n).typeName, cs ++ '(' :: '?' :: decimal n ++ [')'], next, rest)
    else none
  | .word cs :: rest => if lowercase cs = "null".toList then some (.null, cs, next, rest) else none
  | _ => none

/-- Reads the columns of a query for constants, and whether it returns its row. -/
def constants? (params : List Param) : (fuel next : Nat) → List Token →
    Option (List Constant × Nat)
  | 0, _, _ => none
  | fuel + 1, next, ts => do
    let (value, spelling, next, rest) ← constant? params next ts
    let (name, rest) := match rest with
      | .word a :: .word name :: rest =>
        if lowercase a = "as".toList then (name, rest)
        else (spelling, .word a :: .word name :: rest)
      | _ => (spelling, rest)
    let column : Constant := ⟨String.ofList name, value⟩
    match rest with
    | [] => some ([column], 1)
    | .mark ',' :: rest => do
      let (columns, rows) ← constants? params fuel next rest
      return (column :: columns, rows)
    | [w, .number n] =>
      if w.isKeyword "where" then some ([column], if n.all (· == '0') then 0 else 1) else none
    | _ => none

/-- The table that a statement is about. -/
def tableOf? : List Token → Option String
  | a :: .word name :: rest =>
    if a.isKeyword "into" || a.isKeyword "from" || a.isKeyword "update" then
      some (String.ofList name)
    else tableOf? (.word name :: rest)
  | _ :: rest => tableOf? rest
  | [] => none

/-- The statements on items, each with a placeholder for every value. -/
def onItems? (ts : List Token) (params : List Param) : Option Command :=
  let text := String.ofList (lowercase (List.intercalate [' '] (ts.map Token.spelling)))
  let a := paramAt params 1
  let b := paramAt params 2
  if text = "insert into items ( id , amount ) values ( ? , ? )" then some (.insert a b)
  else if text = "update items set amount = ? where id = ?" then some (.update b a)
  else if text = "delete from items where id = ?" then some (.delete a)
  else if text = "select amount from items where id = ?" then some (.amountOf a)
  else if text = "select count ( * ) from items" then some .count
  else if text = "select id , amount from items order by id" then some .all
  else none

/-- Reads transaction control. -/
def control? : List Token → Option Command
  | [t] =>
    if t.isKeyword "begin" then some .begin
    else if t.isKeyword "commit" || t.isKeyword "end" then some .commit
    else if t.isKeyword "rollback" then some .rollback
    else none
  | [t, .word name] =>
    if t.isKeyword "savepoint" then some (.savepoint (String.ofList name))
    else if t.isKeyword "begin" then some .begin
    else if t.isKeyword "commit" then some .commit
    else none
  | [a, b, c, .word name] =>
    if a.isKeyword "rollback" && b.isKeyword "to" && c.isKeyword "savepoint" then
      some (.rollbackTo (String.ofList name))
    else none
  | _ => none

/-- The words that a statement may begin with. -/
def firstWords : List String :=
  ["select", "insert", "update", "delete", "begin", "commit", "end", "rollback", "savepoint"]

/-- Reads a statement. A table that is not there is found before anything else. -/
def command (hasItems : Bool) (s : Statement) : Except DriverError Command := do
  let ts ← match tokens? s.sql.length s.sql.toList with
    | some ts => .ok ts
    | none => .error (sqlError 1 ("unrecognized token: \"" ++ s.sql ++ "\""))
  match control? ts with
  | some c => return c
  | none =>
    match ts with
    | [] => return .constants [] 0
    | first :: rest =>
      if !firstWords.any first.isKeyword then .error (syntaxErrorAt (some first))
      else
        match tableOf? ts with
        | some table =>
          if !hasItems || table != "items" then .error (sqlError 1 ("no such table: " ++ table))
          else
            match onItems? ts s.params with
            | some c => return c
            | none => .error (syntaxErrorAt rest.head?)
        | none =>
          match constants? s.params (rest.length + 1) 1 rest with
          | some (columns, rows) => return .constants columns rows
          | none => .error (syntaxErrorAt rest.head?)

end NestedTx.Sql
