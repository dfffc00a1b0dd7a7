import NestedTx.Url.Basic
import NestedTx.Url.Domain
import NestedTx.Url.PercentEncode

/-!
# Hosts

The host of a URL is a name or an address in brackets. For the special schemes of the web it is a
domain name in lower case or an IPv4 address, which may be written with fewer than four parts and
in other bases; for every other scheme it is kept as written.
-/

namespace NestedTx.Url

open Text

-- powers are those of the core library, whatever else is imported
attribute [local instance (high)] instPowNat

/-- The characters that may not stand in a host. -/
def isForbiddenInHost (c : Char) : Bool :=
  c == '\x00' || c == '\t' || c == '\n' || c == '\r' || c == ' ' || c == '#' || c == '/' ||
    c == ':' || c == '<' || c == '>' || c == '?' || c == '@' || c == '[' || c == '\\' ||
    c == ']' || c == '^' || c == '|'

/-- Four hexadecimal digits at most, as one of the eight pieces of an address. -/
def ipv6Piece? (cs : List Char) : Option Nat :=
  if cs = [] ∨ 4 < cs.length then none
  else cs.foldlM (fun acc c => (hexDigit? c).map (16 * acc + ·)) 0

/-- A decimal number up to 255 without leading zeros. -/
def ipv4Byte? (cs : List Char) : Option Nat := do
  let _ ← if cs = [] ∨ 3 < cs.length ∨ (cs.head? = some '0' ∧ 1 < cs.length) then none else some ()
  let n ← cs.foldlM (fun acc c => (digit? c).map (10 * acc + ·)) 0
  if n ≤ 255 then some n else none

/-- The last piece of an address: it may be an IPv4 address in four parts, worth two pieces. -/
def ipv6Tail? (cs : List Char) : Option (List Nat) :=
  if cs.contains '.' then do
    match ← (cs.splitOn '.').mapM ipv4Byte? with
    | [a, b, c, d] => some [256 * a + b, 256 * c + d]
    | _ => none
  else (ipv6Piece? cs).map fun n => [n]

/-- The pieces between colons. -/
def ipv6Pieces? : List (List Char) → Option (List Nat)
  | [] => some []
  | [last] => ipv6Tail? last
  | p :: rest => do return (← ipv6Piece? p) :: (← ipv6Pieces? rest)

/-- The parts of an address before and after its double colon, if it has one. -/
def splitDoubleColon? : List Char → Option (List Char × List Char)
  | ':' :: ':' :: rest => some ([], rest)
  | c :: rest => (splitDoubleColon? rest).map fun (a, b) => (c :: a, b)
  | [] => none

/-- The eight pieces of an address; a double colon stands for one zero piece or more. -/
def ipv6? (cs : List Char) : Option (List Nat) :=
  let pieces := fun part : List Char =>
    if part = [] then some [] else ipv6Pieces? (part.splitOn ':')
  match splitDoubleColon? cs with
  | none => (pieces cs).filter (·.length == 8)
  | some (left, right) => do
    let front ← if left.contains '.' then none else pieces left
    let back ← pieces right
    let count := front.length + back.length
    if count ≤ 7 then some (front ++ List.replicate (8 - count) 0 ++ back) else none

/-- The number of zeros at the front of a list. -/
def zeroRun (ps : List Nat) : Nat :=
  (ps.takeWhile (· == 0)).length

/-- Where the first of the longest runs of zeros begins, and its length. -/
def longestZeroRun : (start : Nat) → List Nat → Nat × Nat
  | _, [] => (0, 0)
  | start, p :: ps =>
    let here := zeroRun (p :: ps)
    let later := longestZeroRun (start + 1) ps
    if later.2 ≤ here then (start, here) else later

/-- Pieces in hexadecimal with colons between them. -/
def ipv6Join (ps : List Nat) : List Char :=
  List.intercalate [':'] (ps.map (Nat.toDigits 16))

/-- An address in brackets. The first of the longest runs of two zeros or more is left out. -/
def ipv6Text (ps : List Nat) : List Char :=
  let (start, length) := longestZeroRun 0 ps
  let body :=
    if length < 2 then ipv6Join ps
    else ipv6Join (ps.take start) ++ [':', ':'] ++ ipv6Join (ps.drop (start + length))
  '[' :: body ++ [']']

/-- Reads an address in brackets. -/
def bracketedHost (cs : List Char) : Except UrlError (List Char) :=
  if cs.getLast? = some ']' ∧ 2 ≤ cs.length then
    match ipv6? (cs.drop 1).dropLast with
    | some pieces => .ok (ipv6Text pieces)
    | none => .error .invalidIpv6Address
  else .error .invalidIpv6Address

/-- Reads a host that is kept as written. -/
def plainHost (cs : List Char) : Except UrlError (List Char) :=
  if cs.head? = some '[' then bracketedHost cs
  else if cs.any isForbiddenInHost then .error .invalidDomainCharacter
  else .ok (percentEncode inControlSet cs)

/-- One part of an IPv4 address, in base ten, eight after a zero or sixteen after `0x`. -/
def ipv4Part? (cs : List Char) : Option Nat :=
  let inBase := fun (base : Nat) (ds : List Char) =>
    ds.foldlM (fun acc c => ((hexDigit? c).filter (· < base)).map (base * acc + ·)) 0
  match cs with
  | [] => none
  | '0' :: 'x' :: rest => inBase 16 rest
  | '0' :: 'X' :: rest => inBase 16 rest
  | '0' :: d :: rest => inBase 8 (d :: rest)
  | _ => inBase 10 cs

/-- The parts of a domain between dots, without an empty one at the end. -/
def domainParts (cs : List Char) : List (List Char) :=
  let parts := cs.splitOn '.'
  if parts.getLast? = some [] ∧ 1 < parts.length then parts.dropLast else parts

/-- Is the last part of a domain a number? Then the domain must be an address. -/
def endsInNumber (cs : List Char) : Bool :=
  match (domainParts cs).getLast? with
  | none => false
  | some last => (last != [] && last.all isDigit) ||
      (match last with
        | '0' :: x :: _ => (x == 'x' || x == 'X') && (ipv4Part? last).isSome
        | _ => false)

/-- Reads an IPv4 address of one to four parts; the last part fills all bytes that are left. -/
def ipv4? (cs : List Char) : Option Nat := do
  let parts ← (domainParts cs).mapM ipv4Part?
  let last ← parts.getLast?
  let front := parts.dropLast
  if parts.length ≤ 4 ∧ front.all (· ≤ 255) ∧ last < 256 ^ (5 - parts.length) then
    some (front.zipIdx.foldl (fun acc (n, i) => acc + n * 256 ^ (3 - i)) last)
  else none

/-- The four bytes of an address in decimal. -/
def ipv4Text (n : Nat) : List Char :=
  decimal (n / 16777216) ++ '.' :: decimal (n / 65536 % 256) ++ '.' :: decimal (n / 256 % 256) ++
    '.' :: decimal (n % 256)

/-- May the character not stand in a domain name in ASCII? -/
def isForbiddenInDomain (c : Char) : Bool :=
  c.toNat < 0x20 || c == '%' || c == '\x7f' || isForbiddenInHost c

/-- Reads a domain name or an IPv4 address. -/
def domainName (cs : List Char) : Except UrlError (List Char) :=
  match (utf8Decode? (percentDecode (utf8 cs))).bind asciiDomain? with
  | none => .error .invalidDomainName
  | some domain =>
    if domain.any isForbiddenInDomain then .error .invalidDomainName
    else if domain = [] then .error .emptyHost
    else if endsInNumber domain then
      match ipv4? domain with
      | some n => .ok (ipv4Text n)
      | none => .error .invalidIpv4Address
    else .ok domain

/-- Reads the host of a special scheme. -/
def domainHost (cs : List Char) : Except UrlError (List Char) :=
  if cs.head? = some '[' then bracketedHost cs else domainName cs

end NestedTx.Url
