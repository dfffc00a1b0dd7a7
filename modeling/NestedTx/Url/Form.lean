import NestedTx.Url.PercentEncode

/-!
# Form-encoded queries

A query as a list of names and values: pairs between `&` signs, each split at its first `=`, with
`+` for a blank and percent-encoded bytes. Bytes that are not UTF-8 are read as U+FFFD.
-/

namespace NestedTx.Url

open Text

/-- A name with its value. -/
abbrev Pair : Type := List Char × List Char

/-- Reads a name or a value. -/
def formDecode (cs : List Char) : List Char :=
  utf8DecodeLossy (percentDecode (utf8 (cs.map fun c => if c = '+' then ' ' else c)))

/-- May the byte stand for itself? -/
def isFormSafe (b : UInt8) : Bool :=
  let c := Char.ofUInt8 b
  b < 0x80 && (c.isAlphanum || c == '*' || c == '-' || c == '.' || c == '_')

/-- Writes a name or a value. -/
def formEncode (cs : List Char) : List Char :=
  (utf8 cs).flatMap fun b =>
    if isFormSafe b then [Char.ofUInt8 b] else if b = 0x20 then ['+'] else encodeByte b

/-- Reads one pair. Without a `=` the value is empty. -/
def decodePair (cs : List Char) : Pair :=
  let (name, value) := (splitFirst? '=' cs).getD (cs, [])
  (formDecode name, formDecode value)

/-- Writes one pair. -/
def encodePair (p : Pair) : List Char :=
  formEncode p.1 ++ '=' :: formEncode p.2

/-- The pairs of a query. Empty pieces between `&` signs are no pairs. -/
def queryPairs (query : List Char) : List Pair :=
  ((query.splitOn '&').filter (· != [])).map decodePair

/-- The query for a list of pairs. -/
def queryOfPairs (pairs : List Pair) : List Char :=
  List.intercalate ['&'] (pairs.map encodePair)

end NestedTx.Url
