import NestedTx.Database.Connection
import NestedTx.Url.Parser
import NestedTx.Text.Blank

/-!
# Database arguments

An argument names a database by its URL, with the name to register it under in front if one is
wanted: `name=url`. Options of the pool are taken out of the query of the URL; all else is left to
the driver.
-/

namespace NestedTx

open Text

/-- A database to register. -/
structure Target where
  name : String
  connectionString : String
  database : Option String
  pool : PoolOptions
  deriving Repr, DecidableEq

namespace Target

/-- Why an argument is refused. -/
inductive Refusal where
  | emptyName
  | invalidUrl (e : Url.UrlError)
  | badValue (b : PoolOptions.BadValue)
  | misfit (m : PoolOptions.Misfit)
  deriving Repr, DecidableEq

/-- The text for a refusal. -/
def Refusal.message : Refusal → String
  | emptyName => "Database name before '=' cannot be empty"
  | invalidUrl e => "Invalid URL: " ++ e.message
  | badValue b => b.message
  | misfit m => m.message

/-- The name in front of a URL and the URL. A `=` after the colon of the scheme is not looked at. -/
def splitName (cs : List Char) : Option (List Char) × List Char :=
  match splitFirst? '=' (cs.takeWhile (· != ':')) with
  | some (name, _) => (some (trimBlank name), cs.drop (name.length + 1))
  | none => (none, cs)

/-- Does a parameter set an option of the pool? -/
def isPoolOption (p : Url.Pair) : Bool :=
  (PoolOptions.Key.ofName? p.1).isSome

/-- The pairs of the query of a URL. -/
def queryPairs (url : Url) : List Url.Pair :=
  Url.queryPairs (url.query.getD [])

/-- The URL without the options of the pool. A query in which nothing is left is taken away. -/
def stripPoolOptions (url : Url) : Url :=
  match (queryPairs url).filter fun p => !isPoolOption p with
  | [] => url.withQuery none
  | rest => url.withQuery (some (Url.queryOfPairs rest))

/-- The last piece of a path, without `.sqlite` and `.db` at its end, if anything is left. -/
def databaseName? (path : List Char) : Option (List Char) :=
  let last := (path.splitOn '/').getLastD []
  let name := trimEnd ".db".toList (trimEnd ".sqlite".toList last)
  if name = [] then none else some name

/-- Reads an argument that is a URL and nothing more, and the name it asks for. -/
def ofUrl (explicitName : Option (List Char)) (cs : List Char) : Except Refusal Target := do
  let url ← (Url.parse cs).mapError .invalidUrl
  let pool ← (PoolOptions.ofPairs (queryPairs url)).mapError .badValue
  let _ ← match pool.misfit? with
    | some m => .error (.misfit m)
    | none => .ok ()
  let url := stripPoolOptions url
  let database := databaseName? url.path.text
  return {
    name := String.ofList ((explicitName.or database).getD "default".toList)
    connectionString := String.ofList url.text
    database := database.map String.ofList
    pool := pool }

/-- Reads an argument. -/
def parse (s : String) : Except Refusal Target :=
  match splitName s.toList with
  | (some [], _) => .error .emptyName
  | (name, url) => ofUrl name url

/-- The settings for connecting. -/
def config (t : Target) (queryTimeout : Nat) :
    Except ConnectionConfig.Refusal ConnectionConfig :=
  (ConnectionConfig.make t.name t.connectionString t.pool).map (·.withQueryTimeout queryTimeout)

end Target

end NestedTx
