import NestedTx.Proofs.Provider.Failure
import NestedTx.Proofs.Provider.Protocol
import NestedTx.Proofs.Provider.Refinement
import NestedTx.Proofs.Provider.Sight

/-!
# Reused names

When a level is entered again, one server keeps the savepoint that was left behind under its name
and another deletes it. Their savepoints differ from then on. But a provider goes back to open
levels only, both servers have a savepoint for each of those, and both stand for the same ideal. So
each follows the other, call by call, and nothing that is seen tells them apart.
-/

namespace NestedTx

open Dialogue

variable {δ : Type} {policy policy' : NameReuse} {doubt : Call → Prop} {effects : Effects δ}

/-! ### Backends that leave no choice -/

lemma CallExchange.failed_iff {x : CallExchange} : x.failed = true ↔ ∃ e, x.result = .error e := by
  unfold failed
  cases x.result with
  | ok _ => simp [Except.isOk, Except.toBool]
  | error e => simp [Except.isOk, Except.toBool]

lemma CallExchange.result_ok {x : CallExchange} (h : ¬ x.failed = true) : x.result = .ok () := by
  cases hx : x.result with
  | ok _ => rfl
  | error e => exact absurd (failed_iff.2 ⟨e, hx⟩) h

/-- What the data are determines what a statement does, and a statement that fails does nothing. -/
structure Effects.Functional (effects : Effects δ) : Prop where
  execute {st : Statement} {d d₁ d₂ : δ} {r r' : DbResult ExecuteResult}
    (h : effects.execute st d r d₁) (h' : effects.execute st d r' d₂) : r = r' ∧ d₁ = d₂
  query {st : Statement} {d d₁ d₂ : δ} {r r' : DbResult Rows}
    (h : effects.query st d r d₁) (h' : effects.query st d r' d₂) : r = r' ∧ d₁ = d₂
  execute_error {st : Statement} {d d' : δ} {e : DbError}
    (h : effects.execute st d (.error e) d') : d' = d
  query_error {st : Statement} {d d' : δ} {e : DbError}
    (h : effects.query st d (.error e) d') : d' = d

/-- If one of the calls fails, the other fails with the same error, and if they begin transactions,
these have the same handle. -/
def SameFate (x y : CallExchange) : Prop :=
  x.failed = true ∨ y.failed = true ∨ x.1.isBegin = true → x = y

namespace Stored

variable {s s' t t' : Stored δ} {c : Call}

lemma setDataAt_self {route : Route} {d : δ} (met : s.dataAt? route = some d) :
    s.setDataAt route d = s := by
  cases route with
  | resource r =>
    cases met
    rfl
  | transaction h =>
    obtain ⟨c, hc, rfl⟩ := Option.map_eq_some_iff.1 met
    have same : Function.update s.copies h (some c) = s.copies := by
      rw [← hc]
      exact Function.update_eq_self h _
    rw [setDataAt, hc, Option.map_some, put, same]

lemma isStep_of_carryOut? (h : s.carryOut? policy c = some s') : c.isStep = true := by
  cases c with
  | commit _ | rollback _ | savepoint _ _ | rollbackTo _ _ => rfl
  | _ => cases h

lemma eq_of_failed (functional : effects.Functional) {x : CallExchange}
    (step : Step policy (fun _ => False) effects s x s') (h : x.failed = true) : s' = s := by
  obtain ⟨e, error⟩ := CallExchange.failed_iff.1 h
  -- no failure is in doubt, and a statement that fails leaves the data as they were
  cases step with
  | failed => rfl
  | doubtful _ inDoubt => cases inDoubt
  | carried ok =>
    rw [error] at ok
    cases ok
  | begun | discarded | closed => cases error
  | @executed route st r d d' met changed =>
    cases r with
    | ok _ => cases error
    | error e =>
      obtain rfl := functional.execute_error changed
      exact setDataAt_self met
  | @queried route st r d d' met changed =>
    cases r with
    | ok _ => cases error
    | error e =>
      obtain rfl := functional.query_error changed
      exact setDataAt_self met

/-- A backend on which statements are determined by the data is itself determined by the fates of
its calls. -/
lemma determined (functional : effects.Functional) :
    Determines SameFate (Step policy (fun _ => False) effects) := by
  intro s x y s₁ s₂ step step' made same
  -- if one of them fails, the fates tie the exchanges; else both were carried out
  by_cases failed : CallExchange.failed x = true ∨ CallExchange.failed y = true
  · obtain rfl := same (failed.imp_right .inl)
    have hx := failed.elim id id
    rw [eq_of_failed functional step hx, eq_of_failed functional step' hx]
    exact ⟨rfl, rfl⟩
  · obtain ⟨hx, hy⟩ := not_or.1 failed
    have done := CallExchange.result_ok hx
    have done' := CallExchange.result_ok hy
    obtain ⟨c, w⟩ := x
    obtain ⟨_, w'⟩ := y
    cases made
    cases step with
    | begun fresh =>
      cases same (.inr (.inr rfl))
      exact ⟨rfl, (step_begin_ok step').2.symm⟩
    | carried ok h =>
      -- a call between levels replies nothing but that it succeeded
      have hc := isStep_of_carryOut? h
      have replied : w = w' := by
        cases c with
        | commit _ | rollback _ | savepoint _ _ | rollbackTo _ _ => exact done.trans done'.symm
        | _ => cases hc
      have carried := carryOut_of_step_ok step' done' hc
      exact ⟨by rw [replied], Option.some.inj (h.symm.trans carried)⟩
    | failed error =>
      rw [done] at error
      cases error
    | doubtful _ inDoubt => cases inDoubt
    | discarded => exact ⟨rfl, (step_discard step').symm⟩
    | executed met changed =>
      obtain ⟨d, d', met', changed', rfl⟩ | ⟨⟨e, rfl⟩, -⟩ := step_execute step'
      · obtain rfl := Option.some.inj (met.symm.trans met')
        obtain ⟨rfl, rfl⟩ := functional.execute changed changed'
        exact ⟨rfl, rfl⟩
      · cases done'
    | queried met changed =>
      obtain ⟨d, d', met', changed', rfl⟩ | ⟨⟨e, rfl⟩, -⟩ := step_query step'
      · obtain rfl := Option.some.inj (met.symm.trans met')
        obtain ⟨rfl, rfl⟩ := functional.query changed changed'
        exact ⟨rfl, rfl⟩
      · cases done'
    | closed => exact ⟨rfl, (step_close step').symm⟩

/-- The same transactions are in progress. -/
def SameOpen (s t : Stored δ) : Prop :=
  ∀ h, s.copies h = none ↔ t.copies h = none

namespace SameOpen

lemma put (same : s.SameOpen t) (h : TransactionId) {c c' : Option (Copy δ)}
    (both : c = none ↔ c' = none) : (s.put h c).SameOpen (t.put h c') :=
  @copies_put_related _ (fun c c' => c = none ↔ c' = none) s t same h c c' both

lemma setDataAt (same : s.SameOpen t) (route : Route) (d : δ) :
    (s.setDataAt route d).SameOpen (t.setDataAt route d) := by
  cases route with
  | resource r => exact same
  | transaction h =>
    apply same.put h
    rw [Option.map_eq_none_iff, Option.map_eq_none_iff]
    exact same h

lemma carryOut? (same : s.SameOpen t) (h : s.carryOut? policy c = some s')
    (h' : t.carryOut? policy' c = some t') : s'.SameOpen t' := by
  cases c with
  | commit k | rollback k =>
    obtain ⟨c, -, rfl⟩ := Option.map_eq_some_iff.1 h
    obtain ⟨c', -, rfl⟩ := Option.map_eq_some_iff.1 h'
    exact same.put k Iff.rfl
  | savepoint k name | rollbackTo k name =>
    obtain ⟨c, -, rfl⟩ := Option.map_eq_some_iff.1 h
    obtain ⟨c', -, rfl⟩ := Option.map_eq_some_iff.1 h'
    exact same.put k (by simp)
  | _ => cases h

end SameOpen

end Stored

def Provider.Operation.isStatement : Provider.Operation → Bool
  | .execute _ | .query _ => true
  | _ => false

/-- Apart from statements, the ideal is determined by what the database fails in. -/
lemma Ideal.Step.unique {i i₁ i₂ : Ideal δ} {op : Provider.Operation} {failed : Bool}
    {a a' : Provider.Answer} (h : op.isStatement = false) (step : Step effects i op failed a i₁)
    (step' : Step effects i op failed a' i₂) : i₁ = i₂ := by
  cases op with
  | execute _ | query _ => cases h
  | _ =>
    cases step with
    | failed _ e =>
      cases step' with
      | failed => rfl
    | done done =>
      cases step' with
      | done done' =>
        rw [done] at done'
        cases done'
        rfl

namespace Provider

variable {p q : Provider} {op : Operation} {calls : List CallExchange} {a : Answer}
  {s s' t t' : Stored δ} {levels levels' : List (Copy δ)}

lemma control?_isStep_or_begin {c : Call} {wrap : DbError → DbError}
    (h : p.control? op = some (c, wrap)) : c.isStep = true ∨ c = .begin p.resource := by
  unfold control? at h
  grind [Call.isStep]

lemma inside_of_control? {c : Call} {wrap : DbError → DbError}
    (h : p.control? op = some (c, wrap)) (hc : c.isStep = true) :
    ∃ t, p.transaction = some t ∧ (c = .commit t ∨ c = .rollback t ∨
      (∃ name, c = .savepoint t name) ∨
      ∃ k, 1 ≤ k ∧ k ≤ p.depth ∧ c = .rollbackTo t (p.savepointName k)) := by
  unfold control? at h
  grind [Call.isStep]

/-- As long as its savepoints stand, every call that a step between levels makes can be carried
out. -/
lemma Nested.exists_carryOut? (nested : Nested (Standing policy p.id) p s levels) {c : Call}
    {wrap : DbError → DbError} (h : p.control? op = some (c, wrap)) (hc : c.isStep = true) :
    ∃ s', s.carryOut? policy c = some s' := by
  obtain ⟨t, ht, made⟩ := inside_of_control? h hc
  obtain ⟨c, copy, -⟩ := nested.exists_copy ht
  rcases made with rfl | rfl | ⟨name, rfl⟩ | ⟨k, h1, hk, rfl⟩
  · exact ⟨_, by rw [Stored.carryOut?, copy, Option.map_some]⟩
  · exact ⟨_, by rw [Stored.carryOut?, copy, Option.map_some]⟩
  · exact ⟨_, by rw [Stored.carryOut?, copy, Option.map_some]⟩
  · obtain ⟨c, c', copy, found, -⟩ := Ideal.exists_rollbackTo? nested ht h1 hk
    exact ⟨_, by rw [Stored.carryOut?, copy, Option.bind_some, found, Option.map_some]⟩

/-! ### Backends that match -/

/-- Both backends stand for the same ideal, by savepoints of their own. -/
structure Matched (policy policy' : NameReuse) (p : Provider) (s t : Stored δ)
    (levels levels' : List (Copy δ)) : Prop where
  nested : Nested (Standing policy p.id) p s levels
  nested' : Nested (Standing policy' p.id) p t levels'
  ideal_eq : Ideal.of p s levels = Ideal.of p t levels'
  sameOpen : s.SameOpen t

namespace Matched

lemma dataAt?_eq (matched : Matched policy policy' p s t levels levels') :
    s.dataAt? p.route = t.dataAt? p.route := by
  rw [Ideal.dataAt?_eq_visible matched.nested, Ideal.dataAt?_eq_visible matched.nested',
    matched.ideal_eq]

lemma sight_eq (matched : Matched policy policy' p s t levels levels') : p.sight s = p.sight t := by
  have durable : s.durable = t.durable := congrArg Ideal.durable matched.ideal_eq
  rw [sight, sight, matched.dataAt?_eq, durable]

lemma setDataAt (matched : Matched policy policy' p s t levels levels') (d : δ) :
    Matched policy policy' p (s.setDataAt p.route d) (t.setDataAt p.route d) levels levels' where
  nested := matched.nested.setDataAt d
  nested' := matched.nested'.setDataAt d
  ideal_eq := by
    rw [Ideal.of_setDataAt matched.nested, Ideal.of_setDataAt matched.nested', matched.ideal_eq]
  sameOpen := matched.sameOpen.setDataAt p.route d

/-- What a step between levels asks of one backend can be asked of the other. -/
lemma exists_path_step (matched : Matched policy policy' p s t levels levels')
    (move : p.Move op calls a q) (hop : op.isStep = true)
    (path : Path (Stored.Step policy (fun _ => False) effects) s calls s') :
    ∃ t', Path (Stored.Step policy' (fun _ => False) effects) t calls t' ∧ s'.SameOpen t' := by
  -- a refusal makes no call, and a failure has no effect on either backend
  rcases move.outcome hop with ⟨_, -, rfl, -⟩ | ⟨x, wrap, e, h, error, rfl, -⟩ | ⟨-, ok⟩
  · obtain rfl := path_nil_iff.1 path
    exact ⟨t, .nil t, matched.sameOpen⟩
  · have step := path_singleton_iff.1 path
    obtain rfl | ⟨⟨⟩, -⟩ := Stored.step_error step error (control?_isStatement h)
    exact ⟨t, path_singleton_iff.2 (.failed error), matched.sameOpen⟩
  cases h : p.control? op with
  | none =>
    have made := move.map_fst_calls hop
    rw [h] at made
    obtain rfl := List.map_eq_nil_iff.1 made
    obtain rfl := path_nil_iff.1 path
    exact ⟨t, .nil t, matched.sameOpen⟩
  | some needed =>
    obtain ⟨c, wrap⟩ := needed
    obtain ⟨w, rfl⟩ := move.calls_of_control? hop h
    have step := path_singleton_iff.1 path
    have done := ok _ List.mem_cons_self
    -- a begin needs a fresh handle; every other step finds its savepoint standing
    rcases control?_isStep_or_begin h with hc | rfl
    · have carried := Stored.carryOut_of_step_ok step done hc
      obtain ⟨t', carried'⟩ := matched.nested'.exists_carryOut? h hc
      exact ⟨t', path_singleton_iff.2 (.carried done carried'),
        matched.sameOpen.carryOut? carried carried'⟩
    · cases w with
      | error e => cases done
      | ok handle =>
        obtain ⟨fresh, rfl⟩ := Stored.step_begin_ok step
        exact ⟨_, path_singleton_iff.2 (.begun ((matched.sameOpen handle).1 fresh)),
          matched.sameOpen.put handle (by simp)⟩

lemma exists_path (matched : Matched policy policy' p s t levels levels')
    (move : p.Move op calls a q) (hop : op.isStatement = false)
    (path : Path (Stored.Step policy (fun _ => False) effects) s calls s') :
    ∃ t', Path (Stored.Step policy' (fun _ => False) effects) t calls t' ∧ s'.SameOpen t' := by
  cases op with
  | execute _ | query _ => cases hop
  | close =>
    cases move with
    | refused h => cases h
    | failed h => simp [control?] at h
    | closed _ =>
      obtain rfl := Stored.step_close (path_singleton_iff.1 path)
      exact ⟨t, path_singleton_iff.2 .closed, matched.sameOpen⟩
    | @abandoned o _ =>
      obtain ⟨_, discard, path⟩ := path_cons_iff.1 path
      obtain rfl := Stored.step_discard discard
      obtain rfl := Stored.step_close (path_singleton_iff.1 path)
      exact ⟨_, .cons .discarded (path_singleton_iff.2 .closed),
        matched.sameOpen.put o Iff.rfl⟩
  | drop =>
    cases move with
    | refused h => cases h
    | failed h => simp [control?] at h
    | dropped _ =>
      obtain rfl := path_nil_iff.1 path
      exact ⟨t, .nil t, matched.sameOpen⟩
    | @discarded o _ =>
      obtain rfl := Stored.step_discard (path_singleton_iff.1 path)
      exact ⟨_, path_singleton_iff.2 .discarded, matched.sameOpen.put o Iff.rfl⟩
  | _ => exact matched.exists_path_step move rfl path

/-- Backends match as long as they take the same part in the operations. -/
lemma turn (matched : Matched policy policy' p s t levels levels') (move : p.Move op calls a q)
    (hop : op.isStatement = false)
    (path : Path (Stored.Step policy (fun _ => False) effects) s calls s')
    (path' : Path (Stored.Step policy' (fun _ => False) effects) t calls t')
    (sameOpen : s'.SameOpen t') :
    Matched policy policy' q s' t' (Turn.levels ⟨p, s, op, calls, a, q, s'⟩ levels)
      (Turn.levels ⟨p, t, op, calls, a, q, t'⟩ levels') where
  nested := by
    rw [move.id_eq]
    exact matched.nested.turn Standing.kept nofun move path (.inr (Turn.not_slipped move path))
  nested' := by
    rw [move.id_eq]
    exact matched.nested'.turn Standing.kept nofun move path' (.inr (Turn.not_slipped move path'))
  ideal_eq := by
    -- each backend steps as the ideal does, which has one step only
    have step := Ideal.step_of_move matched.nested move path
    have step' := Ideal.step_of_move matched.nested' move path'
    rw [← matched.ideal_eq] at step'
    exact step.unique hop step'
  sameOpen := sameOpen

/-- One backend follows the other through each operation, and they match again. -/
lemma follow (matched : Matched policy policy' p s t levels levels') (move : p.Move op calls a q)
    (path : Path (Stored.Step policy (fun _ => False) effects) s calls s') :
    ∃ t', Path (Stored.Step policy' (fun _ => False) effects) t calls t' ∧
      ∃ outer outer', Matched policy policy' q s' t' outer outer' := by
  -- the data need not settle the reply to a statement, so the second backend gives that of the
  -- first, which is as good for its own data
  cases hop : op.isStatement with
  | false =>
    obtain ⟨t', path', sameOpen⟩ := matched.exists_path move hop path
    exact ⟨t', path', _, _, matched.turn move hop path path' sameOpen⟩
  | true =>
    cases move with
    | executed st r =>
      have step := path_singleton_iff.1 path
      obtain ⟨d, d', met, changed, rfl⟩ | ⟨⟨e, rfl⟩, rfl⟩ := Stored.step_execute step
      · rw [matched.dataAt?_eq] at met
        exact ⟨_, path_singleton_iff.2 (.executed met changed), _, _, matched.setDataAt d'⟩
      · exact ⟨t, path_singleton_iff.2 (.failed rfl), _, _, matched⟩
    | queried st r =>
      have step := path_singleton_iff.1 path
      obtain ⟨d, d', met, changed, rfl⟩ | ⟨⟨e, rfl⟩, rfl⟩ := Stored.step_query step
      · rw [matched.dataAt?_eq] at met
        exact ⟨_, path_singleton_iff.2 (.queried met changed), _, _, matched.setDataAt d'⟩
      · exact ⟨t, path_singleton_iff.2 (.failed rfl), _, _, matched⟩
    | refused h => cases op <;> cases hop <;> cases h
    | failed h => cases op <;> cases hop <;> simp [control?] at h
    | _ => cases hop

end Matched

/-- Backends of two policies that hold the same data are seen alike. -/
lemma simulation (policy policy' : NameReuse) (effects : Effects δ) :
    Simulation (Stored.Step policy (fun _ => False) effects)
      (Stored.Step policy' (fun _ => False) effects)
      fun p s t => ∃ levels levels', Matched policy policy' p s t levels levels' where
  sight_eq := fun ⟨_, _, matched⟩ => matched.sight_eq
  follow := fun ⟨_, _, matched⟩ move path => matched.follow move path

variable {id : String} {r : ResourceId} {s₀ : Stored δ} {history : List (Turn (Stored δ))}

/-- A rollback to a savepoint finds it. -/
lemma Run.exists_savepoint
    (run : Run (Stored.Step policy (fun _ => False) effects) (Provider.new id r) s₀ history p s)
    {u : Turn (Stored δ)} (hu : u ∈ history) {x : CallExchange} (hx : x ∈ u.calls)
    {handle : TransactionId} {name : String} (made : x.1 = .rollbackTo handle name) :
    ∃ c c', u.state.copies handle = some c ∧ c.rollbackTo? name = some c' := by
  obtain ⟨before, after, rfl⟩ := List.append_of_mem hu
  obtain ⟨earlier, move⟩ := run.of_append_cons
  have nested := earlier.nested Standing.kept nofun (.inr earlier.not_slipped)
  obtain rfl : u.provider.id = id := earlier.id_eq
  have fits := move.fits earlier.allLive x hx
  rw [made] at fits
  obtain ⟨k, ht, rfl, h1, hk, -⟩ := fits
  obtain ⟨c, c', copy, found, -⟩ := Ideal.exists_rollbackTo? nested ht h1 hk
  exact ⟨c, c', copy, found⟩

/-- What becomes of a reused name makes no difference to a provider. Whatever is done on a server of
one policy, and whichever calls fail without effect, the same can be done on a server of another,
with the same answers, the same provider and the same data after every operation. If statements are
determined by the data, nothing else can come of the same operations with the same failures. And
every savepoint that is rolled back to exists. -/
theorem reuse_unseen (policy' : NameReuse)
    (run : Run (Stored.Step policy (fun _ => False) effects) (Provider.new id r) s₀ history p s) :
    (∃ history' t,
      Run (Stored.Step policy' (fun _ => False) effects) (Provider.new id r) s₀ history' p t ∧
        history'.map Turn.seen = history.map Turn.seen) ∧
    (effects.Functional → ∀ history' p' t,
      Run (Stored.Step policy' (fun _ => False) effects) (Provider.new id r) s₀ history' p' t →
        List.Forall₂ (Turn.Parallel SameFate) history history' →
          history'.map Turn.seen = history.map Turn.seen ∧ p' = p) ∧
    ∀ u ∈ history, ∀ x ∈ u.calls, ∀ handle name, x.1 = .rollbackTo handle name →
      ∃ c c', u.state.copies handle = some c ∧ c.rollbackTo? name = some c' := by
  have start : ∃ levels levels', Matched policy policy' (Provider.new id r) s₀ s₀ levels levels' :=
    ⟨[], [], .idle rfl rfl, .idle rfl rfl, rfl, fun _ => Iff.rfl⟩
  obtain ⟨followed, t, run', -, seen⟩ :=
    (simulation policy policy' effects).exists_run run start
  refine ⟨⟨followed, t, run', seen⟩, ?_, ?_⟩
  · intro functional history' p' t' run'' parallel
    -- what is parallel to a history is parallel to all that is seen like it
    have parallel' : List.Forall₂ (Turn.Parallel SameFate) (followed.map Turn.seen) history' := by
      rw [seen]
      exact List.forall₂_map_left_iff.2 parallel
    obtain ⟨rfl, rfl, -⟩ := run'.unique (Stored.determined functional) run''
      (List.forall₂_map_left_iff (f := Turn.seen).1 parallel')
    exact ⟨seen, rfl⟩
  · intro u hu x hx handle name made
    exact run.exists_savepoint hu hx made

/-- A level is entered, left, entered again and rolled back. One server then holds two savepoints
and the other one, and the data are the same. -/
theorem reuse_unseen_reentered :
    ∃ (history history' : List (Turn (Stored (List Nat)))) (p : Provider)
      (s t : Stored (List Nat)),
      Run (Stored.Step .shadow (fun _ => False) Connection.counting.effects)
        (Provider.new "prv_1" ⟨0⟩) ⟨[], fun _ => none⟩ history p s ∧
      Run (Stored.Step .replace (fun _ => False) Connection.counting.effects)
        (Provider.new "prv_1" ⟨0⟩) ⟨[], fun _ => none⟩ history' p t ∧
      history.length = 6 ∧ (s.copies ⟨7⟩).map (·.snapshots.length) = some 2 ∧
      (t.copies ⟨7⟩).map (·.snapshots.length) = some 1 ∧
      history'.map Turn.seen = history.map Turn.seen := by
  have run (policy : NameReuse) :=
    (@Run.start _ (Stored.Step policy (fun _ => False) Connection.counting.effects)
      (Provider.new "prv_1" ⟨0⟩) ⟨[], fun _ => none⟩)
    |>.turn (@Move.begun _ 0 ⟨7⟩ rfl).course (path_singleton_iff.2 (.begun rfl))
    |>.turn (@Move.entered _ 1 ⟨7⟩ rfl).course (path_singleton_iff.2 (.carried rfl rfl))
    |>.turn (@Move.left _ ⟨7⟩ 0 rfl rfl).course (.nil _)
    |>.turn (@Move.entered _ 1 ⟨7⟩ rfl).course (path_singleton_iff.2 (.carried rfl rfl))
    |>.turn (Move.executed ⟨"", []⟩ _).course (path_singleton_iff.2 (.executed rfl rfl))
    |>.turn (@Move.undone _ ⟨7⟩ 0 rfl rfl).course (path_singleton_iff.2 (.carried rfl rfl))
  have functional : Connection.counting.effects.Functional :=
    { execute := fun h h' => Prod.mk.inj (h.symm.trans h')
      query := fun h h' => Prod.mk.inj (h.symm.trans h')
      execute_error := nofun
      query_error := nofun }
  obtain ⟨-, determined, -⟩ := reuse_unseen .replace (run .shadow)
  obtain ⟨seen, -⟩ := determined functional _ _ _ (run .replace) (by simp [Turn.Parallel, SameFate])
  exact ⟨_, _, _, _, _, run .shadow, run .replace, rfl, rfl, rfl, seen⟩

end Provider

end NestedTx
