import NestedTx.Text.Ascii

/-!
# UUIDs

A UUID is sixteen bytes. It is written as 32 lower-case hexadecimal digits with hyphens after 8,
12, 16 and 20 of them, and read in either case, with or without the hyphens; the hyphenated form
may stand in braces or behind `urn:uuid:`.
-/

namespace NestedTx.Wire

open Text

/-- The five parts of a hyphenated form have these lengths in digits. -/
def uuidParts : List Nat := [8, 4, 4, 4, 12]

/-- Cuts a list into parts of the given lengths. -/
def cutParts {α : Type} : List Nat → List α → List (List α)
  | [], _ => []
  | n :: ns, l => l.take n :: cutParts ns (l.drop n)

/-- The hyphenated form of a UUID. -/
def uuidText (bs : List UInt8) : List Char :=
  List.intercalate ['-'] (cutParts uuidParts (hexOfBytes bs))

/-- Reads a hyphenated form. -/
def hyphenated? (cs : List Char) : Option (List UInt8) :=
  let parts := cs.splitOn '-'
  if parts.map List.length = uuidParts then bytesOfHex? parts.flatten else none

/-- Reads any form of a UUID. -/
def uuid? (cs : List Char) : Option (List UInt8) :=
  if cs.length = 32 then bytesOfHex? cs
  else if cs.length = 36 then hyphenated? cs
  else if cs.length = 38 then
    if cs.head? = some '\x7b' ∧ cs.getLast? = some '\x7d' then hyphenated? (cs.drop 1).dropLast
    else none
  else if cs.length = 45 then (afterWord? "urn:uuid:".toList cs).bind hyphenated?
  else none

end NestedTx.Wire
