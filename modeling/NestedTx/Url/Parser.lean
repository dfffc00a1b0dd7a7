import NestedTx.Url.Basic
import NestedTx.Url.Host
import NestedTx.Text.Blank

/-!
# Reading a URL

A URL is read from left to right: scheme, authority, path, query, fragment. Blanks and control
characters around it, and tabs and line breaks anywhere in it, do not count.

The schemes of the web are special. They always have a host and a path, write `\` for `/` if they
like, and leave out the port that is usual for them. Files have no port, and their path may begin
with the letter of a drive. All other schemes take what they are given.
-/

namespace NestedTx.Url

open Text

/-- The ways in which schemes are read. -/
inductive SchemeKind where
  | plain
  | special (port : Nat)
  | file
  deriving Repr, DecidableEq

/-- The way in which a scheme is read. -/
def schemeKind (scheme : List Char) : SchemeKind :=
  if scheme = "http".toList ∨ scheme = "ws".toList then .special 80
  else if scheme = "https".toList ∨ scheme = "wss".toList then .special 443
  else if scheme = "ftp".toList then .special 21
  else if scheme = "file".toList then .file
  else .plain

/-- Does a backslash count as a slash? -/
def SchemeKind.isSpecial : SchemeKind → Bool
  | plain => false
  | _ => true

/-- The port that is left out. -/
def SchemeKind.usualPort? : SchemeKind → Option Nat
  | special port => some port
  | _ => none

/-- Is the character a slash, or does it count as one? -/
def SchemeKind.isSlash (k : SchemeKind) (c : Char) : Bool :=
  c == '/' || (k.isSpecial && c == '\\')

/-- Does the character end an authority? -/
def SchemeKind.endsAuthority (k : SchemeKind) (c : Char) : Bool :=
  k.isSlash c || c == '?' || c == '#'

/-- The characters that count. -/
def significant (cs : List Char) : List Char :=
  (trimWhere (fun c => c.toNat ≤ 0x20) cs).filter fun c => !(c == '\t' || c == '\n' || c == '\r')

/-- May the character stand in a scheme after the first letter? -/
def inScheme (c : Char) : Bool :=
  c.isAlphanum || c == '+' || c == '-' || c == '.'

/-- Reads the scheme and what follows its colon. -/
def readScheme? (cs : List Char) : Option (List Char × List Char) :=
  match cs with
  | [] => none
  | c :: _ =>
    if !c.isAlpha then none
    else match cs.dropWhile inScheme with
      | ':' :: rest => some (lowercase (cs.takeWhile inScheme), rest)
      | _ => none

/-- The text before and after the last `@` of an authority. -/
def splitUserinfo? (k : SchemeKind) : List Char → Option (List Char × List Char)
  | [] => none
  | c :: rest =>
    if k.endsAuthority c then none
    else
      match splitUserinfo? k rest with
      | some (user, host) => some (c :: user, host)
      | none => if c = '@' then some ([], rest) else none

/-- User name and password of a text in front of an `@`. An empty password is none. -/
def readUserinfo (cs : List Char) : List Char × Option (List Char) :=
  match splitFirst? ':' cs with
  | none => (percentEncode inUserinfoSet cs, none)
  | some (user, password) =>
    (percentEncode inUserinfoSet user,
      if password = [] then none else some (percentEncode inUserinfoSet password))

/-- The text of the host and what follows it. A colon inside brackets belongs to the host. -/
def splitHost (k : SchemeKind) (inBrackets : Bool) : List Char → List Char × List Char
  | [] => ([], [])
  | c :: rest =>
    if (c == ':' && !inBrackets) || k.endsAuthority c then ([], c :: rest)
    else
      let inBrackets := if c = '[' then true else if c = ']' then false else inBrackets
      let (host, after) := splitHost k inBrackets rest
      (c :: host, after)

/-- Reads the port after its colon: digits up to a slash, `?`, `#` or the end. -/
def readPort (usual : Option Nat) (cs : List Char) : Except UrlError (Option Nat × List Char) :=
  let ds := cs.takeWhile isDigit
  let rest := cs.dropWhile isDigit
  let value := (digits? ds).getD 0
  if 65535 < value then .error .invalidPort
  else
    match rest.head? with
    | none => .ok (port ds value, rest)
    | some c =>
      if c = '/' ∨ c = '\\' ∨ c = '?' ∨ c = '#' then .ok (port ds value, rest)
      else .error .invalidPort
where
  port (ds : List Char) (value : Nat) : Option Nat :=
    if ds = [] ∨ usual = some value then none else some value
  digits? (ds : List Char) : Option Nat :=
    ds.foldlM (fun acc c => (digit? c).map (10 * acc + ·)) 0

/-- Reads a host. Only a scheme that is not special can do without one. -/
def readHost (k : SchemeKind) (cs : List Char) : Except UrlError (List Char) :=
  match k with
  | .plain => plainHost cs
  | _ => if cs = [] then .error .emptyHost else domainHost cs

/-- Reads a host and its port, and gives what follows them. -/
def readEndpoint (k : SchemeKind) (cs : List Char) :
    Except UrlError (List Char × Option Nat × List Char) := do
  let (hostText, after) := splitHost k false cs
  let host ← readHost k hostText
  match after with
  | ':' :: digits =>
    if host = [] then .error .emptyHost
    else do
      let (port, rest) ← readPort k.usualPort? digits
      return (host, port, rest)
  | _ => return (host, none, after)

/-- Reads an authority after its two slashes, and gives what follows it. -/
def readAuthority (k : SchemeKind) (cs : List Char) : Except UrlError (Authority × List Char) :=
  let (userinfo, rest) := (splitUserinfo? k cs).getD ([], cs)
  if (splitUserinfo? k cs).isSome ∧ userinfo = [] ∧ rest.head?.any k.endsAuthority then
    .error .emptyHost
  else do
    let (username, password) := readUserinfo userinfo
    let (host, port, rest) ← readEndpoint k rest
    if host = [] ∧ (username ≠ [] ∨ password.isSome) then .error .emptyHost
    else .ok (⟨username, password, host, port⟩, rest)

/-- Is the segment a letter with `:` or `|` behind it? -/
def isDriveLetter (s : List Char) : Bool :=
  match s with
  | [c, m] => c.isAlpha && (m == ':' || m == '|')
  | _ => false

/-- Does the segment stand for the place where it is? -/
def isSingleDot (s : List Char) : Bool :=
  let s := lowercase s
  s == ".".toList || s == "%2e".toList

/-- Does the segment stand for the place above? -/
def isDoubleDot (s : List Char) : Bool :=
  let s := lowercase s
  s == "..".toList || s == ".%2e".toList || s == "%2e.".toList || s == "%2e%2e".toList

/-- One place up. The letter of a drive is never left. -/
def shorten (done : List (List Char)) : List (List Char) :=
  if (done.getLast?).any isDriveLetter then done else done.dropLast

/-- Goes through the segments of a path and resolves dots. A path that ends in dots ends in a
slash. -/
def walk (k : SchemeKind) (done : List (List Char)) : List (List Char) → List (List Char)
  | [] => done
  | s :: rest =>
    if isDoubleDot s then
      let done := shorten done
      walk k (if rest = [] then done ++ [[]] else done) rest
    else if isSingleDot s then
      walk k (if rest = [] then done ++ [[]] else done) rest
    else if k = .file ∧ done = [] ∧ isDriveLetter s then
      walk k [s.take 1 ++ [':']] rest
    else walk k (done ++ [percentEncode inPathSet s]) rest

/-- A text cut at its slashes. -/
def splitSegments (k : SchemeKind) : List Char → List (List Char)
  | [] => [[]]
  | c :: rest =>
    if k.isSlash c then [] :: splitSegments k rest
    else
      match splitSegments k rest with
      | s :: ss => (c :: s) :: ss
      | [] => [[c]]

/-- The path for a text after its first slash. -/
def readSegments (k : SchemeKind) (cs : List Char) : List (List Char) :=
  walk k [] (splitSegments k cs)

/-- The path of a file, which does not begin with empty segments. -/
def filePath (segments : List (List Char)) : Path :=
  match segments.dropWhile (· == []) with
  | [] => .rooted [[]]
  | s => .rooted s

/-- The segments after an authority. Only a scheme that is not special can do without any. -/
def segmentsAfterAuthority (k : SchemeKind) (cs : List Char) : List (List Char) :=
  match cs with
  | [] => if k.isSpecial then [[]] else []
  | c :: rest => readSegments k (if k.isSlash c then rest else cs)

/-- A text cut at the marks of a query and a fragment. -/
structure Marks where
  body : List Char
  query : Option (List Char)
  fragment : Option (List Char)
  deriving Repr

/-- Cuts a text at its first `#` and at the first `?` in front of that. -/
def splitMarks (cs : List Char) : Marks :=
  let (body, fragment) := match splitFirst? '#' cs with
    | some (body, fragment) => (body, some fragment)
    | none => (cs, none)
  match splitFirst? '?' body with
  | some (body, query) => ⟨body, some query, fragment⟩
  | none => ⟨body, none, fragment⟩

/-- The authority and path of a file. The local host, and a host in front of a drive, are left
out. -/
def readFile (cs : List Char) : Except UrlError (Authority × Path) :=
  let k := SchemeKind.file
  let blank : Authority := ⟨[], none, [], none⟩
  match cs with
  | a :: b :: rest =>
    if k.isSlash a && k.isSlash b then
      let hostText := rest.takeWhile fun c => !k.isSlash c
      if isDriveLetter hostText then .ok (blank, filePath (readSegments k rest))
      else do
        let host ← if hostText = [] then .ok [] else domainHost hostText
        let segments := segmentsAfterAuthority k (rest.dropWhile fun c => !k.isSlash c)
        let isLocal := host == "localhost".toList || (segments.head?).any isDriveLetter
        return (if isLocal then blank else { blank with host := host }, filePath segments)
    else .ok (blank, filePath (segmentsAfterAuthority k cs))
  | _ => .ok (blank, filePath (segmentsAfterAuthority k cs))

/-- A URL with its query and fragment encoded. -/
def assemble (scheme : List Char) (authority : Option Authority) (path : Path) (marks : Marks) :
    Url :=
  let querySet := if (schemeKind scheme).isSpecial then inSpecialQuerySet else inQuerySet
  ⟨scheme, authority, path, marks.query.map (percentEncode querySet),
    marks.fragment.map (percentEncode inFragmentSet)⟩

/-- Reads an authority and all that follows it. -/
def readFromAuthority (scheme cs : List Char) : Except UrlError Url := do
  let k := schemeKind scheme
  let (authority, rest) ← readAuthority k cs
  let marks := splitMarks rest
  return assemble scheme (some authority) (.rooted (segmentsAfterAuthority k marks.body)) marks

/-- Reads what follows the colon of a scheme. -/
def readAfterScheme (scheme rest : List Char) : Except UrlError Url :=
  match schemeKind scheme with
  | .file => do
    let marks := splitMarks rest
    let (authority, path) ← readFile marks.body
    return assemble scheme (some authority) path marks
  | .special _ => readFromAuthority scheme (rest.dropWhile (schemeKind scheme).isSlash)
  | .plain =>
    match rest with
    | '/' :: '/' :: rest => readFromAuthority scheme rest
    | _ =>
      let marks := splitMarks rest
      let path := match marks.body with
        | '/' :: body => .rooted (readSegments .plain body)
        | body => .rootless (percentEncode inControlSet body)
      return assemble scheme none path marks

/-- Reads a URL. -/
def parse (input : List Char) : Except UrlError Url :=
  match readScheme? (significant input) with
  | some (scheme, rest) => readAfterScheme scheme rest
  | none => .error .relativeWithoutBase

end NestedTx.Url
