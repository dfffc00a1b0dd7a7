/-!
# Punycode

A text of any characters as letters, digits and hyphens. The ASCII characters stand in front. Behind
them each other character is written, in increasing order of code points, as the number of steps
that lead to it from the one before, where a step goes on to the next place in the text and, at its
end, to the next code point. The numbers have digits to the base 36, and the least digit that goes
on is adapted to their size.
-/

namespace NestedTx.Url.Punycode

/-- The character for a digit below 36. -/
def digitChar (d : Nat) : Char :=
  if d < 26 then Char.ofNat (97 + d) else Char.ofNat (22 + d)

/-- The value of a digit, in either case. -/
def digit? (c : Char) : Option Nat :=
  if 'a' ≤ c ∧ c ≤ 'z' then some (c.toNat - 97)
  else if 'A' ≤ c ∧ c ≤ 'Z' then some (c.toNat - 65)
  else if '0' ≤ c ∧ c ≤ '9' then some (c.toNat - 22)
  else none

/-- The threshold at a place: a digit below it is the last one. -/
def threshold (bias place : Nat) : Nat :=
  max 1 (min 26 (place - bias))

theorem one_le_threshold (bias place : Nat) : 1 ≤ threshold bias place :=
  Nat.le_max_left ..

/-- The digits of a number, the least significant first. -/
def digits (bias place n : Nat) : List Char :=
  let t := threshold bias place
  if n < t then [digitChar n]
  else digitChar (t + (n - t) % (36 - t)) :: digits bias (place + 36) ((n - t) / (36 - t))
termination_by n
decreasing_by
  have := one_le_threshold bias place
  exact Nat.lt_of_le_of_lt (Nat.div_le_self ..) (by omega)

/-- Brings a number down for the next bias, and says by how many places. -/
def scaleDown (n place : Nat) : Nat × Nat :=
  if n ≤ 455 then (n, place) else scaleDown (n / 35) (place + 36)
termination_by n
decreasing_by omega

/-- The bias after a number, the first or a later one, when so many characters are written. -/
def adapt (isFirst : Bool) (n count : Nat) : Nat :=
  let n := if isFirst then n / 700 else n / 2
  let (n, place) := scaleDown (n + n / count) 0
  place + 36 * n / (n + 38)

/-- Where an encoder is: the steps since the last character, the bias, how many characters are
written, whether one outside ASCII is among them, and what is written. -/
structure Encoding where
  steps : Nat
  bias : Nat
  count : Nat
  isFirst : Bool
  written : List Char
  deriving Repr

/-- Goes over one place of the text in search of the character `c`. -/
def Encoding.visit (c : Char) (e : Encoding) (d : Char) : Encoding :=
  if d < c then { e with steps := e.steps + 1 }
  else if d = c then
    ⟨0, adapt e.isFirst e.steps (e.count + 1), e.count + 1, false,
      e.written ++ digits e.bias 36 e.steps⟩
  else e

/-- Writes the given characters wherever they stand in the text. The first code point that is not
yet passed is `next`. -/
def Encoding.all (text : List Char) : (next : Nat) → Encoding → List Char → Encoding
  | _, e, [] => e
  | next, e, c :: cs =>
    let e := { e with steps := e.steps + (c.toNat - next) * (e.count + 1) }
    let e := text.foldl (Encoding.visit c) e
    all text (c.toNat + 1) { e with steps := e.steps + 1 } cs

/-- Is the character in ASCII? -/
def isAscii (c : Char) : Bool :=
  c.toNat < 0x80

/-- The text in Punycode. -/
def encode (cs : List Char) : List Char :=
  let basic := cs.filter isAscii
  let others := ((cs.filter fun c => !isAscii c).mergeSort (· ≤ ·)).eraseDups
  let front := if basic = [] then [] else basic ++ ['-']
  (Encoding.all cs 0x80 ⟨0, 72, basic.length, true, front⟩ others).written

/-- Reads a number, given what its digits so far are worth and the weight of the next one. -/
def number? (bias : Nat) : (place value weight : Nat) → List Char → Option (Nat × List Char)
  | _, _, _, [] => none
  | place, value, weight, c :: cs => do
    let d ← digit? c
    let t := threshold bias place
    if d < t then some (value + d * weight, cs)
    else number? bias (place + 36) (value + d * weight) (weight * (36 - t)) cs

/-- Reads numbers and puts the character of each in its place in the text. The position to go on
from is given by a code point and a place. -/
def insertAll? : (fuel bias code place : Nat) → (isFirst : Bool) → (text rest : List Char) →
    Option (List Char)
  | _, _, _, _, _, text, [] => some text
  | 0, _, _, _, _, _, _ :: _ => none
  | fuel + 1, bias, code, place, isFirst, text, c :: cs => do
    let (steps, rest) ← number? bias 36 0 1 (c :: cs)
    let count := text.length + 1
    let code := code + (place + steps) / count
    let place := (place + steps) % count
    let char ← if h : code.isValidChar then some (Char.ofNatAux code h) else none
    insertAll? fuel (adapt isFirst steps count) code (place + 1) false
      (text.take place ++ char :: text.drop place) rest

/-- The text that a text in Punycode stands for. -/
def decode? (cs : List Char) : Option (List Char) :=
  let parts := cs.splitOn '-'
  let basic := List.intercalate ['-'] parts.dropLast
  if basic.all isAscii then
    insertAll? cs.length 72 0x80 0 true basic (parts.getLastD [])
  else none

end NestedTx.Url.Punycode
