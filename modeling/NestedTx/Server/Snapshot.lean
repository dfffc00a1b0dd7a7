/-!
# Sessions with savepoints

A session of a store whose data has type `δ`. In a transaction the session works on its own view
of the data, which is taken when the data is first looked at and is published by the commit. A
savepoint remembers the view under a name; rolling back to a name restores the newest view
remembered under it, forgets the later ones and keeps it.
-/

namespace NestedTx

/-- What becomes of an older savepoint when its name is used again: it stays underneath, or it is
deleted. -/
inductive NameReuse where
  | shadow
  | replace
  deriving Repr, DecidableEq

/-- A session: outside of a transaction, in one that has not looked at the data yet, or in one
with a view of the data. Savepoints are listed with the newest first. -/
inductive Session (δ : Type) where
  | autocommit
  | begun (savepoints : List String)
  | working (view : δ) (savepoints : List (String × δ))
  deriving Repr

namespace Session

variable {δ : Type}

/-- Is a transaction in progress? -/
def inTransaction : Session δ → Bool
  | autocommit => false
  | _ => true

/-- Begins a transaction, unless one is in progress. -/
def begin? : Session δ → Option (Session δ)
  | autocommit => some (begun [])
  | _ => none

/-- The data after a commit of the transaction in progress. -/
def commit? (durable : δ) : Session δ → Option δ
  | autocommit => none
  | begun _ => some durable
  | working view _ => some view

/-- The names that are kept when a name is used again. -/
def reuse {α : Type} (policy : NameReuse) (nameOf : α → String) (name : String) (l : List α) :
    List α :=
  match policy with
  | .shadow => l
  | .replace => l.filter fun a => nameOf a != name

/-- Sets a savepoint. Outside of a transaction that begins one. -/
def savepoint (policy : NameReuse) (name : String) : Session δ → Session δ
  | autocommit => begun [name]
  | begun names => begun (name :: reuse policy id name names)
  | working view points => working view ((name, view) :: reuse policy (·.1) name points)

/-- Rolls back to the newest savepoint of a name, if there is one. -/
def rollbackTo? (name : String) : Session δ → Option (Session δ)
  | autocommit => none
  | begun names =>
    match names.dropWhile (· != name) with
    | [] => none
    | kept => some (begun kept)
  | working _ points =>
    match points.dropWhile (·.1 != name) with
    | [] => none
    | (n, view) :: older => some (working view ((n, view) :: older))

/-- The data that a session sees. -/
def view (durable : δ) : Session δ → δ
  | working view _ => view
  | _ => durable

/-- Runs a statement that looks at the data and perhaps changes it: the durable data afterwards,
and the session. -/
def run {α : Type} (f : δ → α × δ) (durable : δ) : Session δ → α × δ × Session δ
  | autocommit =>
    let (a, data) := f durable
    (a, data, autocommit)
  | begun names =>
    let (a, data) := f durable
    (a, durable, working data (names.map fun n => (n, durable)))
  | working view points =>
    let (a, data) := f view
    (a, durable, working data points)

end Session

end NestedTx
