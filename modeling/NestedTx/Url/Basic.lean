import NestedTx.Text.Ascii

/-!
# URLs

A URL in its parts, each already in its encoded form, and the text that the parts are written as.
A path either hangs from the root, as a list of segments, or is a plain text without structure.
-/

namespace NestedTx.Url

open Text

/-- Why a text is not a URL. -/
inductive UrlError where
  | relativeWithoutBase
  | emptyHost
  | invalidPort
  | invalidDomainCharacter
  | invalidDomainName
  | invalidIpv4Address
  | invalidIpv6Address
  deriving Repr, DecidableEq

/-- The text for an error. -/
def UrlError.message : UrlError → String
  | relativeWithoutBase => "relative URL without a base"
  | emptyHost => "empty host"
  | invalidPort => "invalid port number"
  | invalidDomainCharacter => "invalid domain character"
  | invalidDomainName => "invalid international domain name"
  | invalidIpv4Address => "invalid IPv4 address"
  | invalidIpv6Address => "invalid IPv6 address"

/-- Who to talk to: a user and password, a host and a port. An empty password is none. -/
structure Authority where
  username : List Char
  password : Option (List Char)
  host : List Char
  port : Option Nat
  deriving Repr, DecidableEq, Inhabited

/-- The path of a URL. -/
inductive Path where
  | rooted (segments : List (List Char))
  | rootless (text : List Char)
  deriving Repr, DecidableEq, Inhabited

end NestedTx.Url

namespace NestedTx

/-- A URL in its parts. -/
structure Url where
  scheme : List Char
  authority : Option Url.Authority
  path : Url.Path
  query : Option (List Char)
  fragment : Option (List Char)
  deriving Repr, DecidableEq, Inhabited

namespace Url

open Text

/-- User name and password as written in front of the host. -/
def Authority.credentials (a : Authority) : List Char :=
  match a.username, a.password with
  | [], none => []
  | user, none => user ++ ['@']
  | user, some password => user ++ ':' :: password ++ ['@']

/-- The text of an authority. -/
def Authority.text (a : Authority) : List Char :=
  a.credentials ++ a.host ++ (match a.port with
    | some port => ':' :: decimal port
    | none => [])

/-- The text of a path: every segment after a slash. -/
def Path.text : Path → List Char
  | .rooted segments => segments.flatMap fun s => '/' :: s
  | .rootless text => text

/-- What is written between the scheme and the path. Without an authority a path that begins with
two slashes is kept apart by `/.`, or it would be read as an authority. -/
def authorityText (url : Url) : List Char :=
  match url.authority with
  | some a => '/' :: '/' :: a.text
  | none =>
    match url.path with
    | .rooted ([] :: _ :: _) => ['/', '.']
    | _ => []

/-- A part of a URL behind its mark, or nothing. -/
def markedText (mark : Char) : Option (List Char) → List Char
  | some part => mark :: part
  | none => []

/-- The text of a URL. -/
def text (url : Url) : List Char :=
  url.scheme ++ ':' :: url.authorityText ++ url.path.text ++ markedText '?' url.query ++
    markedText '#' url.fragment

/-- The URL with another query. With neither query nor fragment the blanks at the end of a path
without structure go too, as they would be lost when the text is read again. -/
def withQuery (url : Url) (query : Option (List Char)) : Url :=
  match query, url.fragment, url.path with
  | none, none, .rootless text => { url with query := none, path := .rootless (trimEnd [' '] text) }
  | _, _, _ => { url with query := query }

end Url

end NestedTx
