import NestedTx.Text.Ascii

/-!
# The structure of JSON text

A document is JSON text whose structure has been read but whose numbers and strings have not yet
been given a value. Reading it checks the grammar alone, so a part of a text that nobody asks for
may hold a number out of range or half of a surrogate pair.
-/

namespace NestedTx.Json

open Text

/-- A piece of a string: a character that stands for itself, or one of the escapes by number. -/
inductive Piece where
  | char (c : Char)
  | unit (code : Nat)
  deriving Repr, DecidableEq

/-- A number as written. -/
structure Numeral where
  negative : Bool
  whole : List Nat
  fraction : Option (List Nat)
  exponent : Option (Bool × List Nat)
  deriving Repr, DecidableEq

/-- A document. -/
inductive Document where
  | null
  | bool (b : Bool)
  | number (n : Numeral)
  | str (pieces : List Piece)
  | arr (items : List Document)
  | obj (fields : List (List Piece × Document))
  deriving Repr, Inhabited

namespace Document

/-- The text after the blanks at its front. -/
def skipBlanks (cs : List Char) : List Char :=
  cs.dropWhile fun c => c == ' ' || c == '\t' || c == '\n' || c == '\r'

/-- The digits at the front of the text, and what follows. -/
def takeDigits (cs : List Char) : List Nat × List Char :=
  ((cs.takeWhile isDigit).filterMap digit?, cs.dropWhile isDigit)

/-- Reads the part of a number after its sign. A zero stands alone in front of the point. -/
def readUnsigned? (negative : Bool) (cs : List Char) : Option (Numeral × List Char) := do
  let (whole, afterWhole) := takeDigits cs
  let _ ← if whole = [] ∨ (whole.head? = some 0 ∧ 1 < whole.length) then none else some ()
  let (fraction, afterFraction) ← match afterWhole with
    | '.' :: rest =>
      let (ds, rest) := takeDigits rest
      if ds = [] then none else some (some ds, rest)
    | _ => some (none, afterWhole)
  let mark? : Option (List Char) := match afterFraction with
    | 'e' :: rest => some rest
    | 'E' :: rest => some rest
    | _ => none
  match mark? with
  | none => return (⟨negative, whole, fraction, none⟩, afterFraction)
  | some rest =>
    let (down, rest) := match rest with
      | '+' :: r => (false, r)
      | '-' :: r => (true, r)
      | _ => (false, rest)
    let (ds, rest) := takeDigits rest
    if ds = [] then none else return (⟨negative, whole, fraction, some (down, ds)⟩, rest)

/-- Reads four hexadecimal digits. -/
def hex4? : List Char → Option (Nat × List Char)
  | a :: b :: c :: d :: rest => do
    return (((← hexDigit? a) * 16 + (← hexDigit? b)) * 256 + (← hexDigit? c) * 16 + (← hexDigit? d),
      rest)
  | _ => none

/-- Reads the rest of a string after its opening quote. -/
def readString? : (fuel : Nat) → List Char → Option (List Piece × List Char)
  | 0, _ => none
  | _, [] => none
  | _ + 1, '"' :: rest => some ([], rest)
  | fuel + 1, '\\' :: c :: rest => do
    let (piece, rest) ←
      if c = 'u' then (hex4? rest).map fun (n, r) => (Piece.unit n, r)
      else if c = '"' ∨ c = '\\' ∨ c = '/' then some (Piece.char c, rest)
      else if c = 'b' then some (Piece.char '\x08', rest)
      else if c = 'f' then some (Piece.char '\x0c', rest)
      else if c = 'n' then some (Piece.char '\n', rest)
      else if c = 'r' then some (Piece.char '\r', rest)
      else if c = 't' then some (Piece.char '\t', rest)
      else none
    let (pieces, rest) ← readString? fuel rest
    return (piece :: pieces, rest)
  | fuel + 1, c :: rest => do
    let _ ← if c = '\\' ∨ c.toNat < 0x20 then none else some ()
    let (pieces, rest) ← readString? fuel rest
    return (.char c :: pieces, rest)

mutual

/-- Reads a document from the front of the text. -/
def readValue? : (fuel : Nat) → List Char → Option (Document × List Char)
  | 0, _ => none
  | fuel + 1, cs =>
    match skipBlanks cs with
    | [] => none
    | '"' :: rest => (readString? fuel rest).map fun (ps, r) => (.str ps, r)
    | '[' :: rest =>
      match skipBlanks rest with
      | ']' :: r => some (.arr [], r)
      | r => (readItems? fuel r).map fun (items, r) => (.arr items, r)
    | '\x7b' :: rest =>
      match skipBlanks rest with
      | '\x7d' :: r => some (.obj [], r)
      | r => (readFields? fuel r).map fun (fields, r) => (.obj fields, r)
    | '-' :: rest => (readUnsigned? true rest).map fun (n, r) => (.number n, r)
    | c :: rest =>
      if isDigit c then (readUnsigned? false (c :: rest)).map fun (n, r) => (.number n, r)
      else if c = 'n' then (afterWord? "null".toList (c :: rest)).map (.null, ·)
      else if c = 't' then (afterWord? "true".toList (c :: rest)).map (.bool true, ·)
      else (afterWord? "false".toList (c :: rest)).map (.bool false, ·)

/-- Reads the items of an array up to its closing bracket. -/
def readItems? : (fuel : Nat) → List Char → Option (List Document × List Char)
  | 0, _ => none
  | fuel + 1, cs => do
    let (v, rest) ← readValue? fuel cs
    match skipBlanks rest with
    | ',' :: rest =>
      let (vs, rest) ← readItems? fuel rest
      return (v :: vs, rest)
    | ']' :: rest => return ([v], rest)
    | _ => none

/-- Reads the fields of an object up to its closing brace. -/
def readFields? : (fuel : Nat) → List Char → Option (List (List Piece × Document) × List Char)
  | 0, _ => none
  | fuel + 1, cs => do
    let afterQuote ← match skipBlanks cs with
      | '"' :: rest => some rest
      | _ => none
    let (name, rest) ← readString? fuel afterQuote
    let afterColon ← match skipBlanks rest with
      | ':' :: rest => some rest
      | _ => none
    let (v, rest) ← readValue? fuel afterColon
    match skipBlanks rest with
    | ',' :: rest =>
      let (fields, rest) ← readFields? fuel rest
      return ((name, v) :: fields, rest)
    | '\x7d' :: rest => return ([(name, v)], rest)
    | _ => none

end

/-- Reads a text that holds one document and nothing else but blanks. Every step of the reader
but one consumes a character, so twice the length of the text is fuel enough. -/
def read? (cs : List Char) : Option Document := do
  let (doc, rest) ← readValue? (2 * cs.length + 2) cs
  if skipBlanks rest = [] then some doc else none

end Document

end NestedTx.Json
