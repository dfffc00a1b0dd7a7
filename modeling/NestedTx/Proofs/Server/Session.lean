import NestedTx.Proofs.Provider.Backend

/-!
# Sessions as backends

A connection with a session and the durable data is a backend, and no failed call of it has an
effect. A session looks at the data only when a statement does. Until then its savepoints are bare
names, all of which stand for the durable data.
-/

namespace NestedTx

variable {δ : Type} {policy : NameReuse}

namespace Session

variable {durable : δ} {x y : Session δ} {c : Copy δ}

/-- The copy that a session works on, if it is in a transaction. -/
def copy? (durable : δ) : Session δ → Option (Copy δ)
  | autocommit => none
  | begun names => some ⟨durable, names.map fun n => (n, durable)⟩
  | working view points => some ⟨view, points⟩

lemma exists_copy (durable : δ) (h : x.inTransaction = true) : ∃ c, x.copy? durable = some c := by
  cases x with
  | autocommit => cases h
  | begun names => exact ⟨_, rfl⟩
  | working view points => exact ⟨_, rfl⟩

lemma copy?_begin? (durable : δ) (h : x.begin? = some y) :
    x.copy? durable = none ∧ y.copy? durable = some ⟨durable, []⟩ := by
  cases x with
  | autocommit =>
    cases h
    exact ⟨rfl, rfl⟩
  | begun names => cases h
  | working view points => cases h

lemma commit?_eq_copy? : x.commit? durable = (x.copy? durable).map (·.data) := by
  cases x <;> rfl

lemma reuse_map (name : String) (names : List String) :
    (reuse policy id name names).map (fun n => (n, durable))
      = reuse policy (·.1) name (names.map fun n => (n, durable)) := by
  cases policy with
  | shadow => rfl
  | replace =>
    rw [reuse, reuse, List.filter_map]
    rfl

lemma copy?_savepoint (h : x.copy? durable = some c) (name : String) :
    (x.savepoint policy name).copy? durable = some (c.savepoint policy name) := by
  cases x with
  | autocommit => cases h
  | begun names =>
    cases h
    rw [savepoint, copy?, Copy.savepoint, List.map_cons, reuse_map]
  | working view points =>
    cases h
    rfl

lemma inTransaction_back {name : String} (h : x.rollbackTo? name = some y) :
    y.inTransaction = true := by
  cases x with
  | autocommit => cases h
  | begun names => grind [rollbackTo?, inTransaction]
  | working view points => grind [rollbackTo?, inTransaction]

lemma copy?_rollbackTo? (durable : δ) {name : String} (h : x.rollbackTo? name = some y) :
    ((x.copy? durable).bind (·.rollbackTo? name)) = y.copy? durable := by
  cases x with
  | autocommit => cases h
  | begun names =>
    -- before the first statement only the names are kept; their data is what is durable
    have found : (names.map fun n => (n, durable)).dropWhile (·.1 != name)
        = (names.dropWhile (· != name)).map fun n => (n, durable) := by
      rw [List.dropWhile_map]
      rfl
    simp only [rollbackTo?] at h
    simp only [copy?, Option.bind_some, Copy.rollbackTo?, found]
    cases hd : names.dropWhile (· != name) with
    | nil =>
      rw [hd] at h
      cases h
    | cons n older =>
      rw [hd] at h
      cases h
      rfl
  | working view points =>
    simp only [rollbackTo?] at h
    simp only [copy?, Option.bind_some, Copy.rollbackTo?]
    cases hd : points.dropWhile (·.1 != name) with
    | nil =>
      rw [hd] at h
      cases h
    | cons n older =>
      rw [hd] at h
      cases h
      rfl

/-- A statement in a transaction acts on the copy and leaves the durable data alone. -/
lemma copy?_run {α : Type} {f : δ → α × δ} {a : α} {d : δ} (h : x.copy? durable = some c)
    (ran : x.run f durable = (a, d, y)) :
    d = durable ∧ ∃ e, f c.data = (a, e) ∧ y.copy? durable = some { c with data := e } := by
  cases x with
  | autocommit => cases h
  | begun names =>
    cases h
    cases ran
    exact ⟨rfl, _, rfl, rfl⟩
  | working view points =>
    cases h
    cases ran
    exact ⟨rfl, _, rfl, rfl⟩

lemma run_autocommit {α : Type} {f : δ → α × δ} {a : α} {d : δ}
    (ran : (autocommit : Session δ).run f durable = (a, d, y)) :
    f durable = (a, d) ∧ y = autocommit := by
  cases ran
  exact ⟨rfl, rfl⟩

end Session

/-- A connection: the durable data behind it, its session, and the handle under which the
transaction of the session is known. -/
structure Connection (δ : Type) where
  durable : δ
  session : Session δ
  handle : TransactionId

namespace Connection

variable {l l' : Connection δ}

def stored (l : Connection δ) : Stored δ :=
  ⟨l.durable, Function.update (fun _ => none) l.handle (l.session.copy? l.durable)⟩

/-- Does a statement on the route reach the session? While a transaction is in progress there is no
second connection. -/
def Reaches (l : Connection δ) : Route → Prop
  | .resource _ => l.session.inTransaction = false
  | .transaction t => l.session.inTransaction = true ∧ t = l.handle

/-- The steps of a connection, on which statements do what two functions say. -/
inductive Step (policy : NameReuse) (execute : Statement → δ → DbResult ExecuteResult × δ)
    (query : Statement → δ → DbResult Rows × δ) (l : Connection δ) :
    CallExchange → Connection δ → Prop
  | begun {r : ResourceId} {t : TransactionId} {x : Session δ} (h : l.session.begin? = some x) :
      Step policy execute query l ⟨.begin r, .ok t⟩ ⟨l.durable, x, t⟩
  | committed {d : δ} (h : l.session.commit? l.durable = some d) :
      Step policy execute query l ⟨.commit l.handle, .ok ()⟩ ⟨d, .autocommit, l.handle⟩
  | rolledBack (h : l.session.inTransaction = true) :
      Step policy execute query l ⟨.rollback l.handle, .ok ()⟩ { l with session := .autocommit }
  | set (h : l.session.inTransaction = true) (name : String) :
      Step policy execute query l ⟨.savepoint l.handle name, .ok ()⟩
        { l with session := l.session.savepoint policy name }
  | back {name : String} {x : Session δ} (h : l.session.rollbackTo? name = some x) :
      Step policy execute query l ⟨.rollbackTo l.handle name, .ok ()⟩ { l with session := x }
  | failed {x : CallExchange} {e : DbError} (h : x.result = .error e) :
      Step policy execute query l x l
  | discarded :
      Step policy execute query l ⟨.discard l.handle, ()⟩ { l with session := .autocommit }
  | executed {route : Route} {st : Statement} {r : DbResult ExecuteResult} {d : δ} {x : Session δ}
      (reaches : l.Reaches route) (h : l.session.run (execute st) l.durable = (r, d, x)) :
      Step policy execute query l ⟨.execute route st, r⟩ ⟨d, x, l.handle⟩
  | queried {route : Route} {st : Statement} {r : DbResult Rows} {d : δ} {x : Session δ}
      (reaches : l.Reaches route) (h : l.session.run (query st) l.durable = (r, d, x)) :
      Step policy execute query l ⟨.query route st, r⟩ ⟨d, x, l.handle⟩
  | closed {r : ResourceId} : Step policy execute query l ⟨.close r, ()⟩ l

def effects (execute : Statement → δ → DbResult ExecuteResult × δ)
    (query : Statement → δ → DbResult Rows × δ) : Effects δ where
  execute st d r d' := execute st d = (r, d')
  query st d r d' := query st d = (r, d')

lemma copies_stored : l.stored.copies l.handle = l.session.copy? l.durable := by
  simp [stored]

/-- What is put in the place of the transaction is seen there. -/
lemma stored_eq_put {d : δ} {x : Session δ} {c : Option (Copy δ)} (hc : x.copy? d = c) :
    stored ⟨d, x, l.handle⟩ = { l.stored.put l.handle c with durable := d } := by
  simp only [stored, Stored.put, Function.update_idem, hc]

lemma run_stored {α : Type} {f : δ → α × δ} {a : α} {d : δ} {x : Session δ} {route : Route}
    (reaches : l.Reaches route) (h : l.session.run f l.durable = (a, d, x)) :
    ∃ e e', l.stored.dataAt? route = some e ∧ f e = (a, e') ∧
      stored ⟨d, x, l.handle⟩ = l.stored.setDataAt route e' := by
  cases route with
  | resource r =>
    -- a statement reaches the link itself only while no transaction is open on it
    have outside : l.session = .autocommit := by
      cases hx : l.session with
      | autocommit => rfl
      | _ =>
        rw [Reaches, hx] at reaches
        cases reaches
    rw [outside] at h
    obtain ⟨hf, rfl⟩ := Session.run_autocommit h
    refine ⟨l.durable, d, rfl, hf, ?_⟩
    simp only [stored, Stored.setDataAt, outside, Session.copy?]
  | transaction t =>
    obtain ⟨inside, rfl⟩ := reaches
    obtain ⟨c, hc⟩ := Session.exists_copy l.durable inside
    obtain ⟨rfl, e, hf, hx⟩ := Session.copy?_run hc h
    refine ⟨c.data, e, ?_, hf, ?_⟩
    · rw [Stored.dataAt?, copies_stored, hc, Option.map_some]
    · rw [stored_eq_put hx, Stored.setDataAt, copies_stored, hc, Option.map_some]
      rfl

lemma stored_of_outside (h : l.session.copy? l.durable = none) :
    l.stored = ⟨l.durable, fun _ => none⟩ := by
  rw [stored, h]
  congr 1
  exact Function.update_eq_self l.handle _

variable {execute : Statement → δ → DbResult ExecuteResult × δ}
  {query : Statement → δ → DbResult Rows × δ} {x : CallExchange}

lemma step_stored (step : Step policy execute query l x l') :
    Stored.Step policy (fun _ => False) (effects execute query) l.stored x l'.stored := by
  -- a link holds at most one copy, and each of its steps is a step of the store on that copy
  cases step with
  | begun h =>
    obtain ⟨outside, inside⟩ := Session.copy?_begin? l.durable h
    rw [stored_of_outside outside, stored, inside]
    exact .begun rfl
  | committed h =>
    rw [Session.commit?_eq_copy?, Option.map_eq_some_iff] at h
    obtain ⟨c, hc, rfl⟩ := h
    refine .carried rfl ?_
    rw [Stored.carryOut?, copies_stored, hc, stored_eq_put (x := .autocommit) (d := c.data) rfl]
    rfl
  | rolledBack h =>
    obtain ⟨c, hc⟩ := Session.exists_copy l.durable h
    refine .carried rfl ?_
    rw [Stored.carryOut?, copies_stored, hc, stored_eq_put (x := .autocommit) rfl]
    rfl
  | set h name =>
    obtain ⟨c, hc⟩ := Session.exists_copy l.durable h
    refine .carried rfl ?_
    rw [Stored.carryOut?, copies_stored, hc, stored_eq_put (Session.copy?_savepoint hc name)]
    rfl
  | @back name y h =>
    obtain ⟨c, hy⟩ := Session.exists_copy l.durable (Session.inTransaction_back h)
    have found := Session.copy?_rollbackTo? l.durable h
    refine .carried rfl ?_
    rw [Stored.carryOut?, copies_stored, found, hy, stored_eq_put hy]
    rfl
  | failed h => exact .failed h
  | discarded =>
    rw [stored_eq_put (x := .autocommit) rfl]
    exact .discarded
  | executed reaches h =>
    obtain ⟨e, e', met, hf, changed⟩ := run_stored reaches h
    rw [changed]
    exact .executed met hf
  | queried reaches h =>
    obtain ⟨e, e', met, hf, changed⟩ := run_stored reaches h
    rw [changed]
    exact .queried met hf
  | closed => exact .closed

/-- A connection is a backend that leaves no failed call in doubt. -/
def backend (policy : NameReuse) (execute : Statement → δ → DbResult ExecuteResult × δ)
    (query : Statement → δ → DbResult Rows × δ) : Backend δ policy fun _ => False where
  State := Connection δ
  stored := stored
  effects := effects execute query
  Step := Step policy execute query
  sound := step_stored

/-- A connection whose data are a list, which every statement that returns no rows makes longer. -/
def counting : Backend (List Nat) .shadow fun _ => False :=
  backend .shadow (fun _ d => (.ok ⟨1, none⟩, d.length :: d)) fun _ d => (.ok Rows.empty, d)

end Connection

end NestedTx
