import NestedTx.Host
import NestedTx.Provider
import NestedTx.Pool
import NestedTx.Registry
import NestedTx.Server.Address
import NestedTx.Server.Scripted
import NestedTx.Server.Store

/-!
# The service

The service stands for everything outside of a program: files with databases, a scripted server,
the pools of connections to them, and the registry. It replies to all calls of the host and of its
resources. Nothing in it happens by itself, so its state after some calls follows from the state
before them.
-/

namespace NestedTx

/-- The name of the data of a store: a file, a name for a shared store in memory, or a number for
one that nobody else can name. -/
inductive StoreKey where
  | file (path : List Char)
  | shared (name : List Char)
  | unnamed (n : Nat)
  deriving Repr, DecidableEq

/-- The far end of a connection. -/
inductive Link where
  | scripted (l : ScriptedLink)
  | store (key : StoreKey) (l : StoreLink)
  | closed
  deriving Repr, Inhabited

/-- A resource of the service: the kind of its database, where that is, its pool and the limit for
statements in milliseconds. -/
structure PooledResource where
  kind : DatabaseKind
  address : Address
  pool : Pool
  limit : Nat
  deriving Repr

/-- A scripted server with the host and port where it is found. -/
structure Listener where
  host : List Char
  port : Nat
  server : ScriptedServer
  deriving Repr

/-- Everything outside of a program. Connections, resources and transactions are numbered in the
order in which they come about, and keep their numbers. -/
structure Service where
  directories : List (List Char)
  stores : List (StoreKey × StoreData)
  listener : Option Listener
  links : List Link
  resources : List PooledResource
  transactions : List (ResourceId × Transaction)
  registry : Registry ResourceId
  time : Nat
  ids : Nat

namespace Service

/-- A service without files, servers and connections. -/
def empty : Service :=
  ⟨[], [], none, [], [], [], Registry.empty, 0, 0⟩

/-! ### Stores and connections -/

/-- The data of a store. -/
def data? (key : StoreKey) (s : Service) : Option StoreData :=
  (s.stores.find? (·.1 == key)).map (·.2)

/-- Sets the data of a store. -/
def setData (key : StoreKey) (data : StoreData) (s : Service) : Service :=
  { s with stores := (key, data) :: s.stores.filter (·.1 != key) }

/-- Sets the far end of a connection. -/
def setLink (c : ConnectionId) (l : Link) (s : Service) : Service :=
  { s with links := s.links.set c.index l }

/-- Adds a connection. -/
def addLink (l : Link) (s : Service) : ConnectionId × Service :=
  (⟨s.links.length⟩, { s with links := s.links ++ [l] })

/-- The directory of a path. -/
def directoryOf (path : List Char) : List Char :=
  if path.contains '/' then ((path.reverse.dropWhile (· != '/')).drop 1).reverse else []

/-- The error of a file that cannot be opened. -/
def cannotOpen : DriverError :=
  .database "unable to open database file" (some "14") "(code: 14) unable to open database file"

/-- The error of a file system that there is not. -/
def noFileSystem (name : List Char) : DriverError :=
  Sql.sqlError 1 ("no such vfs: " ++ String.ofList name)

/-- Connects to a store. A store that is not there is made if that is wanted. -/
def openStore (key : StoreKey) (create : Bool) (s : Service) :
    Except DriverError ConnectionId × Service :=
  let link := Link.store key StoreLink.fresh
  match s.data? key with
  | some _ =>
    let (c, s) := s.addLink link
    (.ok c, s)
  | none =>
    if create then
      let (c, s) := (s.setData key none).addLink link
      (.ok c, s)
    else (.error cannotOpen, s)

/-- Logs in to the scripted server. A server that says it is busy is asked again until the time
for connecting is up. -/
def logIn (host : List Char) (port : Nat) (s : Service) :
    Except DriverError ConnectionId × Service :=
  match s.listener with
  | none => (.error .poolTimedOut, s)
  | some l =>
    if l.host ≠ host ∨ l.port ≠ port then (.error .poolTimedOut, s)
    else
      match l.server.refusal with
      | none =>
        let (c, s) := s.addLink (.scripted ⟨false, []⟩)
        (.ok c, s)
      | some (code, message) =>
        if l.server.kind = .postgresql ∧ (code = "53300" ∨ code = "57P03") then
          (.error .poolTimedOut, s)
        else (.error (ScriptedServer.serverError l.server.kind code message), s)

/-- Opens a connection to an address. The number names a store that has no name of its own. -/
def openConnection (address : Address) (number : Nat) (s : Service) :
    Except DriverError ConnectionId × Service :=
  match address with
  | .server host port => s.logIn host port
  | .socket _ => (.error (.io "No such file or directory (os error 2)"), s)
  | .file path access =>
    if s.directories.contains path then (.error cannotOpen, s)
    else
      s.openStore (.file path) (access == .create && s.directories.contains (directoryOf path))
  | .noFileSystem name => (.error (noFileSystem name), s)
  | .memory (some name) => s.openStore (.shared name) true
  | .memory none => s.openStore (.unnamed number) true
  | .temporary => s.openStore (.unnamed (1000000 + s.links.length)) true

/-- Sends a statement on a connection. -/
def sendOn (kind : DatabaseKind) (c : ConnectionId) (st : Statement) (s : Service) :
    Outcome × Service :=
  match s.links[c.index]?, s.listener with
  | some (.scripted link), some l =>
    let encode := if kind = .mysql then Wire.mysqlArgument else Wire.postgresArgument
    let m := Wire.message encode st
    let (found, server, link) := l.server.answer link m
    (ScriptedServer.outcome kind m found,
      { s with listener := some { l with server := server } }.setLink c (.scripted link))
  | some (.store key link), _ =>
    let (outcome, link, data) := link.answer ((s.data? key).getD none) st
    (outcome, (s.setData key data).setLink c (.store key link))
  | _, _ => (.failure (.io "connection closed"), s)

/-- Has a connection fallen silent? -/
def isSilent (c : ConnectionId) (s : Service) : Bool :=
  match s.links[c.index]? with
  | some (.scripted link) => link.isSilent
  | _ => false

/-! ### Pools -/

/-- A resource by its number. -/
def resource? (r : ResourceId) (s : Service) : Option PooledResource :=
  s.resources[r.index]?

/-- Sets the limit for statements on a resource, in milliseconds. -/
def setLimit (r : ResourceId) (limit : Nat) (s : Service) : Service :=
  { s with resources := s.resources.modify r.index fun res => { res with limit := limit } }

/-- Changes the pool of a resource. -/
def mapPool (r : ResourceId) (f : Pool → Pool) (s : Service) : Service :=
  { s with resources := s.resources.modify r.index fun res => { res with pool := f res.pool } }

/-- Checks a connection out of the pool of a resource. -/
def acquire (r : ResourceId) (s : Service) : Except DriverError ConnectionId × Service :=
  match s.resource? r with
  | none => (.error .poolClosed, s)
  | some res =>
    match res.pool.acquire with
    | .idle c pool => (.ok c, s.mapPool r fun _ => pool)
    | .refusal e => (.error e, s)
    | .room =>
      match s.openConnection res.address r.index with
      | (.ok c, s) => (.ok c, s.mapPool r Pool.opened)
      | (.error e, s) => (.error e, s)

/-- Closes a connection that is in use. -/
def dropConnection (r : ResourceId) (c : ConnectionId) (s : Service) : Service :=
  (s.setLink c .closed).mapPool r Pool.dropped

/-- Gives a connection back to its pool. One that has fallen silent never comes back. -/
def release (r : ResourceId) (c : ConnectionId) (s : Service) : Service :=
  if s.isSilent c then s
  else
    let isClosed := ((s.resource? r).map (·.pool.isClosed)).getD true
    let s := if isClosed then s.setLink c .closed else s
    s.mapPool r fun pool => pool.released c

/-- Replies to a call on a connection of a resource. -/
def connectionReply (r : ResourceId) (res : PooledResource) :
    (call : ConnectionCall) → StateM Service call.Reply
  | .execute c st => fun s =>
    let (outcome, s) := s.sendOn res.kind c st
    (outcome.executeResult res.kind res.limit, s)
  | .query c st => fun s =>
    let (outcome, s) := s.sendOn res.kind c st
    (outcome.queryResult res.limit, s)
  | .release c => fun s => ((), s.release r c)
  | .close c => fun s => ((), s.dropConnection r c)

/-- Runs something on a connection that is checked out for it alone. -/
def withConnection {α : Type} (r : ResourceId)
    (body : PooledResource → ConnectionId → ConnectionDialogue (DbResult α)) :
    StateM Service (DbResult α) := fun s =>
  match s.resource? r with
  | none => (.error DriverError.poolClosed.classify, s)
  | some res =>
    match s.acquire r with
    | (.error e, s) => (.error e.classify, s)
    | (.ok c, s) =>
      let (result, s) := (body res c).runWith (connectionReply r res) s
      (result, s.release r c)

/-! ### Transactions -/

/-- Begins a transaction on a connection of a resource. -/
def beginOn (r : ResourceId) : StateM Service (DbResult TransactionId) := fun s =>
  match s.resource? r with
  | none => (.error DriverError.poolClosed.classify, s)
  | some res =>
    match s.acquire r with
    | (.error e, s) => (.error e.classify, s)
    | (.ok c, s) =>
      match (Transaction.begin c).runWith (connectionReply r res) s with
      | (.ok t, s) =>
        (.ok ⟨s.transactions.length⟩, { s with transactions := s.transactions ++ [(r, t)] })
      | (.error e, s) => (.error e, s)

/-- Goes on with a transaction. -/
def onTransaction {α : Type} (t : TransactionId) (absent : α)
    (body : Transaction → ConnectionDialogue (α × Transaction)) : StateM Service α := fun s =>
  match s.transactions[t.index]? with
  | none => (absent, s)
  | some (r, tx) =>
    match s.resource? r with
    | none => (absent, s)
    | some res =>
      let ((a, tx), s) := (body tx).runWith (connectionReply r res) s
      (a, { s with transactions := s.transactions.set t.index (r, tx) })

/-- A dialogue that leaves the transaction as it is. -/
def keeping {α : Type} (body : Transaction → ConnectionDialogue α) (t : Transaction) :
    ConnectionDialogue (α × Transaction) := do
  return (← body t, t)

/-- The transaction with the given number. -/
def transaction? (t : TransactionId) (s : Service) : Option Transaction :=
  (s.transactions[t.index]?).map (·.2)

/-! ### Replies -/

/-- Closes the pool of a resource and its idle connections. -/
def closePool (r : ResourceId) (s : Service) : Service :=
  let idle := ((s.resource? r).map (·.pool.idle)).getD []
  (idle.foldl (fun s c => s.setLink c .closed) s).mapPool r Pool.close

/-- The numbers of the pool of a resource. -/
def statsOf (r : ResourceId) (s : Service) : PoolStats :=
  match s.resource? r with
  | none => ⟨0, 0, 0, 0, true⟩
  | some res =>
    let pool := res.pool
    ⟨pool.max, pool.size, pool.idle.length, pool.size - pool.idle.length, pool.isClosed⟩

/-- Replies to a call on resources and transactions. -/
def reply : (call : Call) → StateM Service call.Reply
  | .begin r => beginOn r
  | .commit t => onTransaction t (.error .noActiveTransaction) Transaction.commit
  | .rollback t => onTransaction t (.error .noActiveTransaction) Transaction.rollback
  | .savepoint t name =>
    onTransaction t (.error .noActiveTransaction) (keeping (·.savepoint name))
  | .rollbackTo t name =>
    onTransaction t (.error .noActiveTransaction) (keeping (·.rollbackTo name))
  | .discard t => onTransaction t () fun tx => do return ((), ← tx.discard)
  | .execute (.transaction t) st =>
    onTransaction t (.error .noActiveTransaction) (keeping (·.execute st))
  | .query (.transaction t) st =>
    onTransaction t (.error .noActiveTransaction) (keeping (·.query st))
  | .execute (.resource r) st => withConnection r fun _ c => (ConnectionCall.execute c st).send
  | .query (.resource r) st => withConnection r fun _ c => (ConnectionCall.query c st).send
  | .ping r => withConnection r fun _ _ => return .ok ()
  | .close r => fun s => ((), s.closePool r)
  | .stats r => fun s => (s.statsOf r, s)

/-- Opens the first connections of a pool: at least one, and as many as it is to keep. -/
def fillPool (r : ResourceId) : (count : Nat) → Service → Except DriverError (List ConnectionId) ×
    Service
  | 0, s => (.ok [], s)
  | count + 1, s =>
    match s.acquire r with
    | (.error e, s) => (.error e, s)
    | (.ok c, s) =>
      match fillPool r count s with
      | (.ok cs, s) => (.ok (c :: cs), s)
      | (.error e, s) => (.error e, s)

/-- Connects to a database. -/
def connect (config : ConnectionConfig) : StateM Service (DbResult ResourceId) := fun s =>
  match Address.ofConnectionString config.kind config.connectionString with
  | .error e => (.error (addressError config.kind e), s)
  | .ok address =>
    let r : ResourceId := ⟨s.resources.length⟩
    let res : PooledResource := ⟨config.kind, address, Pool.new config.pool.effectiveMax,
      1000 * config.effectiveQueryTimeout⟩
    let s := { s with resources := s.resources ++ [res] }
    match fillPool r (max 1 config.pool.effectiveMin) s with
    | (.ok cs, s) => (.ok r, cs.foldl (fun s c => s.release r c) s)
    | (.error e, s) => (.error (connectError config.kind e), s)

/-- The version that an embedded store reports. -/
def storeVersion : String := "3.x"

/-- Asks for the version of a server. -/
def versionOf (r : ResourceId) : StateM Service (Option String) := fun s =>
  match s.acquire r with
  | (.error _, s) => (none, s)
  | (.ok c, s) =>
    match s.links[c.index]?, s.listener with
    | some (.scripted link), some l =>
      let (found, server, link) := l.server.answer link (.prepared "SELECT version()" [])
      let s := { s with listener := some { l with server := server } }.setLink c (.scripted link)
      (ScriptedServer.firstText? l.server.kind found, s.release r c)
    | _, _ => (some storeVersion, s.release r c)

/-- Replies to a call of the host. -/
def hostReply : (call : HostCall) → StateM Service call.Reply
  | .resource call => reply call
  | .connect config => connect config
  | .version r => versionOf r
  | .contains name => fun s => (s.registry.contains name, s)
  | .claim name r => fun s =>
    let (free, registry) := s.registry.claim name r
    (free, { s with registry := registry })
  | .lookup name => fun s => (s.registry.lookup name, s)
  | .drain => fun s =>
    let (drained, registry) := s.registry.drain
    (drained, { s with registry := registry })
  | .clock => fun s => (s.time, { s with time := s.time + 1 })
  | .freshId => fun s => (Provider.idOf s.ids, { s with ids := s.ids + 1 })

/-- The log of the scripted server. -/
def log (s : Service) : List Wire.Message :=
  match s.listener with
  | some l => l.server.log
  | none => []

end Service

end NestedTx
