import NestedTx.Proofs.Command.Course

/-!
# Checks as rules

What a check of a database does with the host and what it reports, given that nobody else shares the
registry. The rules of `Checked` say all of it: a check ends before it connects, at the connection,
or it registers the database and examines it.
-/

namespace NestedTx

open Dialogue

lemma ConnectionConfig.id_of_make {id cs : String} {pool : PoolOptions} {config : ConnectionConfig}
    (h : make id cs pool = .ok config) : config.id = id := by
  rw [make] at h
  split_ifs at h
  split at h
  · cases h
    rfl
  · cases h

lemma Target.id_of_config {t : Target} {n : Nat} {config : ConnectionConfig}
    (h : t.config n = .ok config) : config.id = t.name := by
  rw [Target.config] at h
  cases made : ConnectionConfig.make t.name t.connectionString t.pool with
  | error refusal =>
    rw [made] at h
    cases h
  | ok settings =>
    rw [made] at h
    cases h
    change settings.id = t.name
    exact ConnectionConfig.id_of_make made

namespace Command

open Registration

/-! ### The host of a check -/

/-- The replies of the host. What a resource replies is left open, but closing always succeeds. -/
inductive Answers (h : Holdings) : HostExchange → Holdings → Prop
  | shared {x : HostExchange} {h' : Holdings} (replies : Replies h x h') : Answers h x h'
  | lookup (name : String) : Answers h ⟨.lookup name, h.registry.lookup name⟩ h
  | clock (now : Nat) : Answers h ⟨.clock, now⟩ h
  | freshId (id : String) : Answers h ⟨.freshId, id⟩ h
  | call {call : Call} (other : ∀ r, call ≠ .close r) (reply : call.Reply) :
      Answers h ⟨.resource call, reply⟩ h

variable {h h' : Holdings} {l : List HostExchange} {name : String} {config : ConnectionConfig}
  {r : ResourceId}

lemma Answers.contains {taken : Bool} (answers : Answers h ⟨.contains name, taken⟩ h') :
    taken = h.registry.contains name ∧ h' = h := by
  cases answers with
  | shared replies =>
    cases replies
    exact ⟨rfl, rfl⟩

lemma Answers.connected (answers : Answers h ⟨.connect config, .ok r⟩ h') :
    r ∉ h.known ∧ h' = { h with known := r :: h.known } := by
  cases answers with
  | shared replies =>
    cases replies with
    | connected _ fresh => exact ⟨fresh, rfl⟩

lemma Answers.notConnected {e : DbError} (answers : Answers h ⟨.connect config, .error e⟩ h') :
    h' = h := by
  cases answers with
  | shared replies =>
    cases replies
    rfl

lemma Answers.version {v : Option String} (answers : Answers h ⟨.version r, v⟩ h') : h' = h := by
  cases answers with
  | shared replies =>
    cases replies
    rfl

lemma Answers.claim {granted : Bool} (answers : Answers h ⟨.claim name r, granted⟩ h') :
    granted = (h.registry.claim name r).1 ∧
      h' = { h with registry := (h.registry.claim name r).2 } := by
  cases answers with
  | shared replies =>
    cases replies
    exact ⟨rfl, rfl⟩

lemma Answers.lookup_eq {found : DbResult ResourceId}
    (answers : Answers h ⟨.lookup name, found⟩ h') :
    found = h.registry.lookup name ∧ h' = h := by
  cases answers with
  | shared replies => cases replies
  | lookup => exact ⟨rfl, rfl⟩

lemma Answers.drained {rs : List ResourceId} (answers : Answers h ⟨.drain, rs⟩ h') :
    rs = h.registry.entries.map (·.2) ∧ h' = { h with registry := .empty } := by
  cases answers with
  | shared replies =>
    cases replies
    exact ⟨rfl, rfl⟩

lemma Answers.closed (answers : Answers h ⟨.resource (.close r), ()⟩ h') :
    h' = { h with closed := r :: h.closed } := by
  generalize hx : (⟨.resource (.close r), ()⟩ : HostExchange) = x at answers
  cases answers with
  | shared replies =>
    cases replies with
    | closed => cases hx; rfl
    | _ => cases hx
  | call other =>
    cases hx
    exact absurd rfl (other r)
  | _ => cases hx

/-- Is nothing changed by the call, whatever is replied? -/
def isStill : HostCall → Bool
  | .lookup _ | .clock | .freshId => true
  | .resource (.close _) => false
  | .resource _ => true
  | _ => false

lemma Answers.still {x : HostExchange} (answers : Answers h x h') (still : isStill x.1 = true) :
    h' = h := by
  cases answers with
  | shared replies => cases replies <;> cases still
  | _ => rfl

lemma path_still (still : ∀ x ∈ l, isStill x.1 = true) (path : Path Answers h l h') : h' = h := by
  induction path with
  | nil => rfl
  | cons answers _ ih =>
    obtain ⟨first, others⟩ := List.forall_mem_cons.1 still
    exact (ih others).trans (answers.still first)

/-! ### The examination of a database -/

/-- Units of work that are entered and rolled back leave what is shared as it is. -/
lemma Probe.isStill {id : String} {m : List CallExchange} {result : DbResult Nesting}
    (probe : Probe id r m result) :
    ∀ x ∈ m.map CallExchange.onHost, Command.isStill x.1 = true := by
  cases probe <;> simp [CallExchange.onHost, Command.isStill]

/-- The ways in which a database that is registered can be examined. -/
inductive Examined (r : ResourceId) (report : Report) : List HostExchange → Report → Prop
  | unpinged (id : String) (start : Nat) (e : DbError) :
      Examined r report
        [⟨.lookup report.name, .ok r⟩, ⟨.freshId, id⟩, ⟨.clock, start⟩,
          ⟨.resource (.ping r), .error e⟩]
        { report with error := some e.message }
  | unprobed (id id' : String) (start now : Nat) {m : List CallExchange} {e : DbError}
      (probe : Probe id' r m (.error e)) :
      Examined r report
        ([⟨.lookup report.name, .ok r⟩, ⟨.freshId, id⟩, ⟨.clock, start⟩,
            ⟨.resource (.ping r), .ok ()⟩, ⟨.clock, now⟩, ⟨.lookup report.name, .ok r⟩,
            ⟨.freshId, id'⟩] ++ m.map CallExchange.onHost)
        { report with pingMs := some (now - start), error := some e.message }
  | passed (id id' : String) (start now : Nat) (stats : PoolStats) {m : List CallExchange}
      {nesting : Nesting} (probe : Probe id' r m (.ok nesting)) :
      Examined r report
        ([⟨.lookup report.name, .ok r⟩, ⟨.freshId, id⟩, ⟨.clock, start⟩,
            ⟨.resource (.ping r), .ok ()⟩, ⟨.clock, now⟩, ⟨.lookup report.name, .ok r⟩,
            ⟨.freshId, id'⟩] ++ m.map CallExchange.onHost ++ [⟨.resource (.stats r), stats⟩])
        { report with
          pingMs := some (now - start), nesting := some nesting, stats := some stats }

/-- A provider for a name that is registered. -/
lemma of_course_providerFor {result : DbResult Provider}
    (listed : h.registry.lookup name = .ok r) (course : Course (providerFor name) l result)
    (path : Path Answers h l h') :
    ∃ id, l = [⟨.lookup name, .ok r⟩, ⟨.freshId, id⟩] ∧ result = .ok (Provider.new id r) ∧
      h' = h := by
  obtain ⟨e, rfl, rfl⟩ | ⟨r', id, rfl, rfl⟩ := course_providerFor_iff.1 course
  · obtain ⟨found, -⟩ := (path_singleton_iff.1 path).lookup_eq
    rw [listed] at found
    cases found
  · obtain ⟨h₁, answers, rest⟩ := path_cons_iff.1 path
    obtain ⟨found, rfl⟩ := answers.lookup_eq
    rw [listed] at found
    cases found
    exact ⟨id, rfl, rfl, (path_singleton_iff.1 rest).still rfl⟩

lemma Examined.of_course {report report' : Report} (listed : h.registry.lookup report.name = .ok r)
    (course : Course (examine report) l report') (path : Path Answers h l h') :
    Examined r report l report' ∧ h' = h := by
  rw [examine, bind_eq_andThen] at course
  obtain ⟨first, l, result, rfl, made, checked⟩ := course_andThen_iff.1 course
  obtain ⟨h₁, path₁, path₂⟩ := path_append_iff.1 path
  obtain ⟨id, rfl, rfl, rfl⟩ := of_course_providerFor listed made path₁
  obtain ⟨start, l, rfl, pinging⟩ := course_ask_iff.1 checked
  obtain ⟨pinged, l, rfl, probing⟩ := course_ask_iff.1 pinging
  obtain ⟨h₂, answers₂, path₃⟩ := path_cons_iff.1 path₂
  obtain rfl := answers₂.still rfl
  obtain ⟨h₃, answers₃, path₄⟩ := path_cons_iff.1 path₃
  obtain rfl := answers₃.still rfl
  -- from here on the questions asked depend on the replies: a failed ping ends the report
  cases pinged with
  | error e =>
    obtain ⟨rfl, rfl⟩ := course_answer_iff.1 probing
    obtain rfl := path_nil_iff.1 path₄
    exact ⟨.unpinged id start e, rfl⟩
  | ok u =>
    obtain ⟨now, l, rfl, entering⟩ := course_ask_iff.1 probing
    obtain ⟨h₄, answers₄, path₅⟩ := path_cons_iff.1 path₄
    obtain rfl := answers₄.still rfl
    rw [answer_andThen] at entering
    dsimp only at entering
    rw [bind_eq_andThen] at entering
    obtain ⟨first, l, result, rfl, made', entered⟩ := course_andThen_iff.1 entering
    obtain ⟨h₅, path₆, path₇⟩ := path_append_iff.1 path₅
    obtain ⟨id', rfl, rfl, rfl⟩ := of_course_providerFor listed made' path₆
    obtain ⟨first, l, result, rfl, probed, reporting⟩ := course_andThen_iff.1 entered
    obtain ⟨m, course', rfl⟩ := course_onHost_iff.1 probed
    have probe := Probe.of_course course'
    obtain ⟨h₆, path₈, path₉⟩ := path_append_iff.1 path₇
    -- the probe only calls the resource, which leaves the registry as it was
    obtain rfl := path_still probe.isStill path₈
    cases result with
    | error e =>
      obtain ⟨rfl, rfl⟩ := course_answer_iff.1 reporting
      obtain rfl := path_nil_iff.1 path₉
      rw [List.append_nil]
      exact ⟨.unprobed id id' start now probe, rfl⟩
    | ok nesting =>
      obtain ⟨stats, l, rfl, last⟩ := course_ask_iff.1 reporting
      obtain ⟨rfl, rfl⟩ := course_answer_iff.1 last
      obtain rfl := (path_singleton_iff.1 path₉).still rfl
      rw [← List.append_assoc]
      exact ⟨.passed id id' start now stats probe, rfl⟩

/-! ### The check of a database -/

/-- The ways in which a database can be checked. -/
inductive Checked (n : Nat) (t : Target) (h : Holdings) :
    List HostExchange → Report → Holdings → Prop
  | refused {refusal : ConnectionConfig.Refusal} (invalid : t.config n = .error refusal) :
      Checked n t h [] (.failed t.name refusal.message) h
  | taken {config : ConnectionConfig} (valid : t.config n = .ok config)
      (taken : h.registry.contains t.name = true) :
      Checked n t h [⟨.contains t.name, true⟩]
        (.failed t.name (DbError.nameConflict t.name).message) h
  | notConnected {config : ConnectionConfig} (valid : t.config n = .ok config)
      (free : h.registry.contains t.name = false) (e : DbError) :
      Checked n t h [⟨.contains t.name, false⟩, ⟨.connect config, .error e⟩]
        (.failed t.name e.message) h
  | registered {config : ConnectionConfig} (valid : t.config n = .ok config)
      (free : h.registry.contains t.name = false) {r : ResourceId} (v : Option String)
      {m : List HostExchange} {report : Report}
      (examined : Examined r (.registered ⟨t.name, config.kind, v⟩) m report) :
      Checked n t h
        ([⟨.contains t.name, false⟩, ⟨.connect config, .ok r⟩, ⟨.version r, v⟩,
          ⟨.claim t.name r, true⟩] ++ m)
        report { h with registry := (h.registry.claim t.name r).2, known := r :: h.known }

variable {n : Nat} {t : Target} {report : Report}

lemma Checked.of_course (course : Course (checkDatabase t n) l report)
    (path : Path Answers h l h') : Checked n t h l report h' := by
  cases made : t.config n with
  | error refusal =>
    rw [checkDatabase_of_refused made] at course
    obtain ⟨rfl, rfl⟩ := course_answer_iff.1 course
    obtain rfl := path_nil_iff.1 path
    exact .refused made
  | ok config =>
    have name := Target.id_of_config made
    rw [checkDatabase, made] at course
    dsimp only at course
    rw [Stage.registerDatabase_eq, bind_eq_andThen, ask_andThen, name] at course
    obtain ⟨taken, l, rfl, connecting⟩ := course_ask_iff.1 course
    obtain ⟨h₁, answers₁, path₁⟩ := path_cons_iff.1 path
    obtain ⟨looked, rfl⟩ := answers₁.contains
    cases taken with
    | true =>
      obtain ⟨rfl, rfl⟩ := course_answer_iff.1 connecting
      obtain rfl := path_nil_iff.1 path₁
      exact .taken made looked.symm
    | false =>
      obtain ⟨connected, l, rfl, probing⟩ := course_ask_iff.1 connecting
      obtain ⟨h₂, answers₂, path₂⟩ := path_cons_iff.1 path₁
      cases connected with
      | error e =>
        obtain ⟨rfl, rfl⟩ := course_answer_iff.1 probing
        obtain rfl := answers₂.notConnected
        obtain rfl := path_nil_iff.1 path₂
        exact .notConnected made looked.symm e
      | ok r =>
        obtain ⟨-, rfl⟩ := answers₂.connected
        obtain ⟨v, l, rfl, claiming⟩ := course_ask_iff.1 probing
        obtain ⟨h₃, answers₃, path₃⟩ := path_cons_iff.1 path₂
        obtain rfl := answers₃.version
        obtain ⟨granted, l, rfl, examining⟩ := course_ask_iff.1 claiming
        obtain ⟨h₄, answers₄, path₄⟩ := path_cons_iff.1 path₃
        obtain ⟨won, rfl⟩ := answers₄.claim
        obtain ⟨free, listed⟩ := Registry.claim_of_free looked.symm r
        rw [name, free] at won
        subst won
        have examining' : Course (examine (.registered ⟨config.id, config.kind, v⟩)) l report :=
          examining
        rw [name] at examining' path₄ ⊢
        -- the name was free, so the claim succeeds and lists the pool for the examination
        have found : (h₁.registry.claim t.name r).2.lookup t.name = .ok r := by
          rw [Registry.lookup_eq_ok_iff, listed, if_pos rfl]
        obtain ⟨examined, rfl⟩ := Examined.of_course found examining' path₄
        exact .registered made looked.symm v examined

end Command

end NestedTx
