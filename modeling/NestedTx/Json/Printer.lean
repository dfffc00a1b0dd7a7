import NestedTx.Json.Basic
import NestedTx.Binary64.Shortest

/-!
# JSON text

Values are written without blanks. A floating-point number is the shortest decimal that reads back
to it, written with a point when its decimal exponent lies between -5 and 15 and with an exponent
otherwise; numbers that are not finite are written as `null`.
-/

namespace NestedTx.Json

open Text

/-- The text of a positive finite magnitude. -/
def magnitudeText (bits : Nat) : List Char :=
  let (digits, low) := Binary64.shortest bits
  let ds := decimal digits
  let point : Int := ds.length + low
  if 0 ≤ low ∧ point ≤ 16 then
    ds ++ List.replicate low.toNat '0' ++ ['.', '0']
  else if 0 < point ∧ point ≤ 16 then
    ds.take point.toNat ++ '.' :: ds.drop point.toNat
  else if -5 < point ∧ point ≤ 0 then
    '0' :: '.' :: (List.replicate (-point).toNat '0' ++ ds)
  else
    let exponent := point - 1
    let mark := (if exponent < 0 then ['e', '-'] else ['e', '+']) ++ decimal exponent.natAbs
    match ds with
    | [] => mark
    | [d] => d :: mark
    | d :: more => d :: '.' :: (more ++ mark)

/-- The text of a floating-point number. -/
def floatText (x : Binary64) : List Char :=
  if !x.isFinite then "null".toList
  else
    let body := if x.isZero then "0.0".toList else magnitudeText x.magnitude
    if x.isNegative then '-' :: body else body

/-- The text of an integer. -/
def intText (i : Int) : List Char :=
  if i < 0 then '-' :: decimal i.natAbs else decimal i.natAbs

/-- A character inside quotes. -/
def escapeChar (c : Char) : List Char :=
  if c = '"' then ['\\', '"']
  else if c = '\\' then ['\\', '\\']
  else if c = '\x08' then ['\\', 'b']
  else if c = '\x0c' then ['\\', 'f']
  else if c = '\n' then ['\\', 'n']
  else if c = '\r' then ['\\', 'r']
  else if c = '\t' then ['\\', 't']
  else if c.toNat < 0x20 then
    ['\\', 'u', '0', '0', hexLower (c.toNat / 16), hexLower (c.toNat % 16)]
  else [c]

/-- A text in quotes. -/
def quote (s : String) : List Char :=
  '"' :: s.toList.flatMap escapeChar ++ ['"']

mutual

/-- The text of a value. -/
def text : Json → List Char
  | .null => "null".toList
  | .bool true => "true".toList
  | .bool false => "false".toList
  | .int i => intText i
  | .float x => floatText x
  | .str s => quote s
  | .arr [] => ['[', ']']
  | .arr (v :: rest) => '[' :: (text v ++ itemsText rest ++ [']'])
  | .obj [] => ['\x7b', '\x7d']
  | .obj ((n, v) :: rest) =>
    '\x7b' :: (quote n ++ ':' :: text v ++ fieldsText rest ++ ['\x7d'])

/-- The text of further items, each after a comma. -/
def itemsText : List Json → List Char
  | [] => []
  | v :: rest => ',' :: (text v ++ itemsText rest)

/-- The text of further fields, each after a comma. -/
def fieldsText : List (String × Json) → List Char
  | [] => []
  | (n, v) :: rest => ',' :: (quote n ++ ':' :: text v ++ fieldsText rest)

end

/-- The text of a value. -/
def render (v : Json) : String :=
  String.ofList v.text

end NestedTx.Json
