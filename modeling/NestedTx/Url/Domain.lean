import NestedTx.Text.Ascii
import NestedTx.Text.CaseFold
import NestedTx.Text.Invisible
import NestedTx.Url.Punycode

/-!
# Domain names

A domain name is a list of labels between dots. It is written in ASCII: letters in lower case, and
a label with other characters in Punycode behind `xn--`.
-/

namespace NestedTx.Url

open Text

/-- The ranges of code points outside ASCII that may not stand in a domain name: controls, spaces,
joiners and marks of direction, surrogates, private use and what is no character. -/
def refusedInDomain : List (Nat × Nat) :=
  [(0x80, 0xA0), (0x1680, 0x1680), (0x2000, 0x200A), (0x200C, 0x200F), (0x2028, 0x202F),
    (0x205F, 0x205F), (0x2065, 0x206F), (0x3000, 0x3000), (0xE000, 0xF8FF), (0xFFF0, 0xFFFF),
    (0xE0000, 0xE00FF), (0xE01F0, 0x10FFFF)]

/-- The ranges of code points that are left out of a domain name: marks for line breaks and for the
choice of a glyph. -/
def ignoredInDomain : List (Nat × Nat) :=
  [(0xAD, 0xAD), (0x34F, 0x34F), (0x180B, 0x180F), (0x200B, 0x200B), (0x2060, 0x2064),
    (0xFE00, 0xFE0F), (0xFEFF, 0xFEFF), (0xE0100, 0xE01EF)]

/-- Does the character lie in one of the ranges? -/
def inRanges (ranges : List (Nat × Nat)) (c : Char) : Bool :=
  ranges.any fun (first, last) => first ≤ c.toNat && c.toNat ≤ last

/-- The characters that one character of a domain name stands for: letters in lower case, wide
forms of ASCII characters as those, and every full stop as a dot. -/
def domainChar (c : Char) : List Char :=
  if inRanges ignoredInDomain c then []
  else if c = '\u3002' ∨ c = '\uFF0E' ∨ c = '\uFF61' then ['.']
  else if 0xFF01 ≤ c.toNat ∧ c.toNat ≤ 0xFF5E then [foldChar (Char.ofNat (c.toNat - 0xFEE0))]
  else [foldChar c]

/-- May the characters outside ASCII stand in a label as they do? No label begins with a mark that
extends the character in front of it. -/
def isLabel (cs : List Char) : Bool :=
  !cs.any (inRanges refusedInDomain) && !(cs.head?.any isInvisible)

/-- A label in ASCII. One that is in Punycode already must stand for a label with other characters
that is written like this. -/
def asciiLabel? (cs : List Char) : Option (List Char) :=
  match afterWord? "xn--".toList cs with
  | some code => do
    let label ← Punycode.decode? code
    if cs.all Punycode.isAscii ∧ !label.all Punycode.isAscii ∧ isLabel label ∧
        label.flatMap domainChar = label ∧ Punycode.encode label = code then some cs
    else none
  | none =>
    if cs.all Punycode.isAscii then some cs
    else if isLabel cs then some ("xn--".toList ++ Punycode.encode cs)
    else none

/-- A domain name in ASCII. -/
def asciiDomain? (cs : List Char) : Option (List Char) := do
  let labels ← ((cs.flatMap domainChar).splitOn '.').mapM asciiLabel?
  return List.intercalate ['.'] labels

end NestedTx.Url
