import NestedTx.Proofs.Command.Check

/-!
# What the command reports

The reports of a command are made one after the other, each by one check, while the registry holds
what the checks before it have registered. In the end everything in the registry is closed.
-/

namespace NestedTx.Command

open Dialogue Registration

/-! ### Calls of resources -/

/-- The calls of resources among the exchanges with the host. -/
def resourceCalls (l : List HostExchange) : List CallExchange :=
  l.filterMap fun
    | ⟨.resource call, w⟩ => some ⟨call, w⟩
    | _ => none

lemma resourceCalls_append (l m : List HostExchange) :
    resourceCalls (l ++ m) = resourceCalls l ++ resourceCalls m :=
  List.filterMap_append

lemma resourceCalls_onHost (m : List CallExchange) :
    resourceCalls (m.map CallExchange.onHost) = m := by
  rw [resourceCalls, List.filterMap_map]
  exact List.filterMap_some

/-- Does the call control a transaction? -/
def isControl : Call → Bool
  | .begin _ | .commit _ | .rollback _ | .savepoint _ _ | .rollbackTo _ _ => true
  | _ => false

def controls (m : List CallExchange) : List CallExchange :=
  m.filter fun x => isControl x.1

/-- The calls by which two units of work are entered and rolled back. -/
def script (r : ResourceId) (t : TransactionId) (name : String) : List Call :=
  [.begin r, .savepoint t name, .rollbackTo t name, .rollback t]

/-- The calls change nothing in the database: no statement is run and nothing is committed, a call
that fails is the last to control the transaction, and the transaction is over in the end. All calls
succeed if the units of work are reported. -/
structure Careful (r : ResourceId) (m : List CallExchange) (nested : Bool) : Prop where
  control : ∃ t id, (controls m).map (·.1) <+: script r t (Savepoint.name id 1) ∧
    ∀ t', ⟨.begin r, .ok t'⟩ ∈ controls m → t' = t
  last : ∀ x ∈ (controls m).dropLast, x.failed = false
  complete : nested = true ↔ (controls m).length = 4 ∧ ∀ x ∈ controls m, x.failed = false
  ended : ∀ t, ⟨.begin r, .ok t⟩ ∈ m → ⟨.rollback t, .ok ()⟩ ∈ m ∨ ⟨.discard t, ()⟩ ∈ m
  harmless : ∀ x ∈ m, x.1.isStatement = false ∧ ∀ r, x.1 ≠ .close r

lemma Careful.of_probe {id : String} {r : ResourceId} {m : List CallExchange}
    {result : DbResult Nesting} (probe : Probe id r m result) : Careful r m result.isOk := by
  have control : ∃ t, (controls m).map (·.1) <+: script r t (Savepoint.name id 1) ∧
      ∀ t', ⟨.begin r, .ok t'⟩ ∈ controls m → t' = t := by
    cases probe with
    | unbegun e => exact ⟨⟨0⟩, ⟨_, rfl⟩, by simp [controls, isControl]⟩
    | unentered t e | kept t e | unended t e | undone t =>
      exact ⟨t, ⟨_, rfl⟩, by simp [controls, isControl]⟩
  obtain ⟨t, control⟩ := control
  refine ⟨⟨t, id, control⟩, ?_, ?_, ?_, ?_⟩
  all_goals
    cases probe <;>
      simp [controls, isControl, CallExchange.failed, CallExchange.result, Except.isOk,
        Except.toBool, Except.map, Call.isStatement]

/-- Calls around that neither control a transaction nor change anything make no difference. -/
lemma Careful.around {r : ResourceId} {m : List CallExchange} {nested : Bool}
    (h : Careful r m nested)
    (before after : List CallExchange) (quiet : ∀ x ∈ before ++ after,
      isControl x.1 = false ∧ x.1.isStatement = false ∧ ∀ r, x.1 ≠ .close r) :
    Careful r (before ++ m ++ after) nested := by
  obtain ⟨first, later⟩ := List.forall_mem_append.1 quiet
  have none {l : List CallExchange} (hl : ∀ x ∈ l,
      isControl x.1 = false ∧ x.1.isStatement = false ∧ ∀ r, x.1 ≠ .close r) : controls l = [] :=
    List.filter_eq_nil_iff.2 fun x hx => by simp [(hl x hx).1]
  have same : controls (before ++ m ++ after) = controls m := by
    rw [controls, List.filter_append, List.filter_append, ← controls, ← controls, ← controls,
      none first, none later, List.nil_append, List.append_nil]
  have inside {x : CallExchange} (hx : x ∈ m) : x ∈ before ++ m ++ after := by simp [hx]
  refine ⟨same ▸ h.control, same ▸ h.last, same ▸ h.complete, ?_, ?_⟩
  · intro t begun
    have begun : ⟨.begin r, .ok t⟩ ∈ controls m := same ▸ List.mem_filter.2 ⟨begun, rfl⟩
    exact (h.ended t (List.mem_filter.1 begun).1).imp inside inside
  · intro x hx
    obtain hx | hx := List.mem_append.1 hx
    · obtain hx | hx := List.mem_append.1 hx
      · exact (first x hx).2
      · exact h.harmless x hx
    · exact (later x hx).2

lemma Careful.nil (r : ResourceId) : Careful r [] false := by
  refine ⟨⟨⟨0⟩, "", List.nil_prefix, by simp [controls]⟩, ?_, ?_, ?_, ?_⟩ <;> simp [controls]

variable {n : Nat} {t : Target} {h h' : Holdings} {l : List HostExchange}
  {report report' : Report} {r : ResourceId}

lemma Examined.careful (examined : Examined r report l report') (fresh : report.nesting = none) :
    Careful r (resourceCalls l) report'.nesting.isSome := by
  have pinged (w : DbResult Unit) : ∀ x ∈ ([⟨.ping r, w⟩] : List CallExchange),
      isControl x.1 = false ∧ x.1.isStatement = false ∧ ∀ r, x.1 ≠ .close r := by
    simp [isControl, Call.isStatement]
  cases examined with
  | unpinged id start e =>
    rw [fresh]
    exact (Careful.nil r).around [⟨.ping r, .error e⟩] [] (pinged _)
  | @unprobed id id' start now m e probe =>
    rw [resourceCalls_append, resourceCalls_onHost, fresh]
    have around := (Careful.of_probe probe).around [⟨.ping r, .ok ()⟩] [] (pinged _)
    rwa [List.append_nil] at around
  | @passed id id' start now stats m nesting probe =>
    rw [resourceCalls_append, resourceCalls_append, resourceCalls_onHost]
    refine (Careful.of_probe probe).around [⟨.ping r, .ok ()⟩] [⟨.stats r, stats⟩] ?_
    simp [isControl, Call.isStatement]

/-! ### Resources -/

def opened? : HostExchange → Option ResourceId
  | ⟨.connect _, .ok r⟩ => some r
  | _ => none

def claimed? : HostExchange → Option ResourceId
  | ⟨.claim _ r, true⟩ => some r
  | _ => none

/-- The resources that were opened. -/
def opened (l : List HostExchange) : List ResourceId :=
  l.filterMap opened?

/-- The resources that were registered. -/
def claimed (l : List HostExchange) : List ResourceId :=
  l.filterMap claimed?

lemma opened_append (l m : List HostExchange) : opened (l ++ m) = opened l ++ opened m :=
  List.filterMap_append

lemma claimed_append (l m : List HostExchange) : claimed (l ++ m) = claimed l ++ claimed m :=
  List.filterMap_append

/-- A call that changes nothing neither opens nor registers a resource. -/
lemma none_of_still {x : HostExchange} (still : isStill x.1 = true) :
    opened? x = none ∧ claimed? x = none := by
  obtain ⟨call, reply⟩ := x
  cases call with
  | connect | claim => cases still
  | _ => exact ⟨rfl, rfl⟩

lemma opened_of_still (still : ∀ x ∈ l, isStill x.1 = true) : opened l = [] :=
  List.filterMap_eq_nil_iff.2 fun x hx => (none_of_still (still x hx)).1

lemma claimed_of_still (still : ∀ x ∈ l, isStill x.1 = true) : claimed l = [] :=
  List.filterMap_eq_nil_iff.2 fun x hx => (none_of_still (still x hx)).2

/-- An examination changes nothing of what is shared. -/
lemma Examined.isStill (examined : Examined r report l report') :
    ∀ x ∈ l, Command.isStill x.1 = true := by
  cases examined with
  | unpinged => simp [Command.isStill]
  | unprobed _ _ _ _ probe =>
    refine List.forall_mem_append.2 ⟨?_, probe.isStill⟩
    simp [Command.isStill]
  | passed _ _ _ _ _ probe =>
    refine List.forall_mem_append.2 ⟨List.forall_mem_append.2 ⟨?_, probe.isStill⟩, ?_⟩ <;>
      simp [Command.isStill]

/-- What is opened is registered. -/
lemma Checked.opened_eq (checked : Checked n t h l report h') : opened l = claimed l := by
  cases checked with
  | refused | taken | notConnected => rfl
  | registered valid free v examined =>
    rw [opened_append, claimed_append, opened_of_still examined.isStill,
      claimed_of_still examined.isStill]
    rfl

/-- What is registered is held by the registry. -/
lemma Checked.held (checked : Checked n t h l report h') :
    (h'.registry.entries.map (·.2)).Perm (claimed l ++ h.registry.entries.map (·.2)) := by
  cases checked with
  | refused | taken | notConnected => exact .refl _
  | @registered config valid free r v m report examined =>
    rw [claimed_append, claimed_of_still examined.isStill, Registry.entries_claim free]
    exact (Registry.perm_insertEntry t.name r h.registry.entries).map _

/-- The calls of a check go to the resource that it registers. -/
lemma Checked.careful (checked : Checked n t h l report h') :
    ∃ r, (∀ r' ∈ claimed l, r' = r) ∧ Careful r (resourceCalls l) report.nesting.isSome := by
  cases checked with
  | refused | taken | notConnected => exact ⟨⟨0⟩, List.forall_mem_nil _, .nil _⟩
  | @registered _ _ _ r _ _ _ examined =>
    refine ⟨r, ?_, ?_⟩
    · rw [claimed_append, claimed_of_still examined.isStill]
      exact List.forall_mem_singleton.2 rfl
    · rw [resourceCalls_append]
      exact examined.careful rfl

/-! ### One check -/

/-- A report fills in what it found in order, and has an error if it did not come to its end. Units
of work that are reported have been left. -/
structure Report.Stepwise (report : Report) : Prop where
  ping : report.pingMs.isSome → report.kind.isSome
  nesting : ∀ nesting, report.nesting = some nesting →
    nesting = ⟨[0, 1], .idle⟩ ∧ report.pingMs.isSome
  stats : report.stats.isSome → report.nesting.isSome
  error : report.error = none ↔ report.stats.isSome

lemma Report.stepwise_failed (name message : String) : (failed name message).Stepwise := by
  constructor <;> simp [failed]

lemma Examined.stepwise {info : ConnectionInfo}
    (examined : Examined r (.registered info) l report) : report.Stepwise := by
  cases examined with
  | unpinged | unprobed => constructor <;> simp [Report.registered]
  | passed _ _ _ _ _ probe =>
    cases probe
    constructor <;> simp [Report.registered]

lemma Examined.name_kind (examined : Examined r report l report') :
    report'.name = report.name ∧ report'.kind = report.kind := by
  cases examined <;> exact ⟨rfl, rfl⟩

lemma Checked.stepwise (checked : Checked n t h l report h') : report.Stepwise := by
  cases checked with
  | refused | taken | notConnected => exact Report.stepwise_failed _ _
  | registered _ _ _ examined => exact examined.stepwise

lemma Checked.name (checked : Checked n t h l report h') : report.name = t.name := by
  cases checked with
  | refused | taken | notConnected => rfl
  | registered _ _ _ examined => exact examined.name_kind.1

/-- The kind of a database is reported if the database was registered. -/
lemma Checked.kind_iff (checked : Checked n t h l report h') :
    report.kind.isSome ↔ ∃ r, ⟨.claim t.name r, true⟩ ∈ l := by
  cases checked with
  | refused | taken | notConnected => simp [Report.failed]
  | @registered _ _ _ r _ _ _ examined =>
    rw [examined.name_kind.2]
    exact ⟨fun _ => ⟨r, by simp⟩, fun _ => rfl⟩

lemma Checked.of_refused {refusal : ConnectionConfig.Refusal}
    (checked : Checked n t h l report h') (invalid : t.config n = .error refusal) :
    l = [] ∧ report = .failed t.name refusal.message := by
  cases checked with
  | refused same =>
    cases same.symm.trans invalid
    exact ⟨rfl, rfl⟩
  | taken valid | notConnected valid | registered valid => cases valid.symm.trans invalid

/-- A check whose settings are accepted connects unless the name is taken. -/
lemma Checked.unconnected_iff {config : ConnectionConfig} (checked : Checked n t h l report h')
    (valid : t.config n = .ok config) : Unconnected l ↔ h.registry.contains t.name = true := by
  have connected {l : List HostExchange} (free : h.registry.contains t.name = false)
      {config : ConnectionConfig} {reply : DbResult ResourceId}
      (hl : ⟨.connect config, reply⟩ ∈ l) :
      Unconnected l ↔ h.registry.contains t.name = true := by
    rw [free]
    exact ⟨fun h => absurd rfl (h _ hl config), fun h => absurd h Bool.false_ne_true⟩
  cases checked with
  | refused invalid => cases invalid.symm.trans valid
  | taken _ taken => simp [Unconnected, taken]
  | notConnected _ free | registered _ free =>
    exact connected free (List.mem_cons_of_mem _ List.mem_cons_self)

lemma Checked.of_taken {config : ConnectionConfig} (checked : Checked n t h l report h')
    (valid : t.config n = .ok config) (taken : h.registry.contains t.name = true) :
    report = .failed t.name (DbError.nameConflict t.name).message := by
  cases checked with
  | refused invalid => cases invalid.symm.trans valid
  | taken => rfl
  | notConnected _ free | registered _ free => cases taken.symm.trans free

lemma head?_append {s : String} {c : Char} (h : s.toList.head? = some c) (u : String) :
    (s ++ u).toList.head? = some c := by
  rw [String.toList_append, List.head?_append, h]
  rfl

/-- No settings are refused with the text that a name is taken. -/
lemma refusal_message_ne (refusal : ConnectionConfig.Refusal) (name : String) :
    refusal.message ≠ (DbError.nameConflict name).message := by
  intro same
  have conflict : (DbError.nameConflict name).message.toList.head? = some 'D' :=
    head?_append (head?_append rfl name) _
  have refused : refusal.message.toList.head? ≠ some 'D' := by
    cases refusal with
    | emptyId => decide
    | invalidId id =>
      have first : (ConnectionConfig.Refusal.invalidId id).message.toList.head? = some 'C' :=
        head?_append rfl id
      rw [first]
      decide
    | unknownKind s =>
      have first : (ConnectionConfig.Refusal.unknownKind s).message.toList.head? = some 'U' :=
        head?_append rfl s
      rw [first]
      decide
  exact refused (same ▸ conflict)

/-- A check of a database with its exchanges and its report. -/
structure Check where
  target : Target
  calls : List HostExchange
  report : Report

namespace Check

def Valid (n : Nat) (c : Check) : Prop :=
  ∃ config, c.target.config n = .ok config

def Registered (c : Check) : Prop :=
  ∃ r, ⟨.claim c.target.name r, true⟩ ∈ c.calls

/-- The report that a name is taken. -/
def Conflict (c : Check) : Prop :=
  c.report = .failed c.target.name (DbError.nameConflict c.target.name).message

/-- What a check does and says is determined by its settings, by the checks before it, and by the
replies that it meets. -/
structure Faithful (n : Nat) (before : List Check) (c : Check) : Prop where
  name : c.report.name = c.target.name
  refused : ∀ refusal, c.target.config n = .error refusal →
    c.calls = [] ∧ c.report = .failed c.target.name refusal.message
  conflict : Unconnected c.calls ∧ c.Conflict ↔
    c.Valid n ∧ ∃ b ∈ before, b.target.name = c.target.name ∧ b.Registered
  free : c.Valid n → (∀ b ∈ before, b.target.name = c.target.name → ¬b.Registered) →
    ¬Unconnected c.calls
  kind : c.report.kind.isSome ↔ c.Registered
  stepwise : c.report.Stepwise
  careful : ∃ r, (∀ r' ∈ claimed c.calls, r' = r) ∧
    Careful r (resourceCalls c.calls) c.report.nesting.isSome

end Check

/-- A check is faithful if the registry holds its name just in case a check before registered it. -/
lemma Checked.faithful {c : Check} {before : List Check}
    (checked : Checked n c.target h c.calls c.report h')
    (held : h.registry.contains c.target.name = true ↔
      ∃ b ∈ before, b.target.name = c.target.name ∧ b.Registered) : c.Faithful n before where
  name := checked.name
  refused _ invalid := checked.of_refused invalid
  conflict := by
    constructor
    -- a refused target has no conflict, since no refusal reads as one
    · rintro ⟨unconnected, conflict⟩
      cases made : c.target.config n with
      | error refusal =>
        have same := congrArg Report.error ((checked.of_refused made).2.symm.trans conflict)
        exact absurd (Option.some.inj same) (refusal_message_ne refusal c.target.name)
      | ok config => exact ⟨⟨config, made⟩, held.1 ((checked.unconnected_iff made).1 unconnected)⟩
    · rintro ⟨⟨config, valid⟩, registered⟩
      have taken := held.2 registered
      exact ⟨(checked.unconnected_iff valid).2 taken, checked.of_taken valid taken⟩
  free := by
    rintro ⟨config, valid⟩ none unconnected
    obtain ⟨b, hb, same, registered⟩ := held.1 ((checked.unconnected_iff valid).1 unconnected)
    exact none b hb same registered
  kind := checked.kind_iff
  stepwise := checked.stepwise
  careful := checked.careful

end NestedTx.Command
