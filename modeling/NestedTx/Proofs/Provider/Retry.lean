import Mathlib.Data.Set.Basic
import Mathlib.Order.Nat
import NestedTx.Proofs.Provider.Failure
import NestedTx.Proofs.Provider.Sight
import NestedTx.Proofs.Server.Session

/-!
# Trying again

A call about a savepoint may be carried out although it is reported as failed. The provider stays
where it is, and its user tries again until the call succeeds. By then a savepoint may have been set
several times, or gone back to several times. Going back again changes nothing. Setting it again
deletes the one that was there, or lies on top of it; as both hold the same data and nothing comes
between them, the lower one is never seen.
-/

namespace NestedTx

open Dialogue

/-- Lists that differ only in how often elements are repeated in a row. -/
inductive SameRuns {α : Type} : List α → List α → Prop
  | refl (l : List α) : SameRuns l l
  | again (x : α) (l : List α) : SameRuns (x :: x :: l) (x :: l)
  | cons (x : α) {l l' : List α} (h : SameRuns l l') : SameRuns (x :: l) (x :: l')
  | symm {l l' : List α} (h : SameRuns l l') : SameRuns l' l
  | trans {l l' l'' : List α} (h : SameRuns l l') (h' : SameRuns l' l'') : SameRuns l l''

namespace SameRuns

variable {α : Type} {l l' : List α}

lemma head?_eq (h : SameRuns l l') : l.head? = l'.head? := by
  induction h with
  | refl l => rfl
  | again x l => rfl
  | cons x h ih => rfl
  | symm h ih => exact ih.symm
  | trans h h' ih ih' => exact ih.trans ih'

lemma dropWhile (h : SameRuns l l') (f : α → Bool) : SameRuns (l.dropWhile f) (l'.dropWhile f) := by
  induction h with
  | refl l => exact .refl _
  | again x l =>
    by_cases hx : f x = true
    · simp only [List.dropWhile_cons, hx, ↓reduceIte]
      exact .refl _
    · simp only [List.dropWhile_cons, hx, Bool.false_eq_true, ↓reduceIte]
      exact .again x l
  | cons x h ih =>
    by_cases hx : f x = true
    · simpa only [List.dropWhile_cons, hx, ↓reduceIte] using ih
    · simpa only [List.dropWhile_cons, hx, Bool.false_eq_true, ↓reduceIte] using h.cons x
  | symm h ih => exact ih.symm
  | trans h h' ih ih' => exact ih.trans ih'

lemma filter (h : SameRuns l l') (f : α → Bool) : SameRuns (l.filter f) (l'.filter f) := by
  induction h with
  | refl l => exact .refl _
  | again x l =>
    by_cases hx : f x = true
    · simp only [List.filter_cons, hx, ↓reduceIte]
      exact .again x _
    · simp only [List.filter_cons, hx, Bool.false_eq_true, ↓reduceIte]
      exact .refl _
  | cons x h ih =>
    by_cases hx : f x = true
    · simpa only [List.filter_cons, hx, ↓reduceIte] using ih.cons x
    · simpa only [List.filter_cons, hx, Bool.false_eq_true, ↓reduceIte] using ih
  | symm h ih => exact ih.symm
  | trans h h' ih ih' => exact ih.trans ih'

end SameRuns

variable {δ : Type} {policy : NameReuse} {doubt : Call → Prop} {effects : Effects δ}

/-! ### Copies that are alike -/

namespace Copy

variable {c c' c'' : Copy δ} {name : String}

/-- The copies hold the same data, and the same snapshots but for repetitions. -/
def Alike (c c' : Copy δ) : Prop :=
  c.data = c'.data ∧ SameRuns c.snapshots c'.snapshots

lemma Alike.refl (c : Copy δ) : c.Alike c :=
  ⟨rfl, .refl _⟩

lemma Alike.symm (h : c.Alike c') : c'.Alike c :=
  ⟨h.1.symm, h.2.symm⟩

lemma Alike.trans (h : c.Alike c') (h' : c'.Alike c'') : c.Alike c'' :=
  ⟨h.1.trans h'.1, h.2.trans h'.2⟩

lemma Alike.savepoint (h : c.Alike c') (policy : NameReuse) (name : String) :
    (c.savepoint policy name).Alike (c'.savepoint policy name) := by
  refine ⟨h.1, ?_⟩
  rw [Copy.savepoint, Copy.savepoint, h.1]
  apply SameRuns.cons
  cases policy with
  | shadow => exact h.2
  | replace => exact h.2.filter _

lemma Alike.rollbackTo? (h : c.Alike c') (name : String) :
    Option.Rel Alike (c.rollbackTo? name) (c'.rollbackTo? name) := by
  have kept := h.2.dropWhile (·.1 != name)
  -- both searches end at the same snapshot, or neither finds any
  have newest := kept.head?_eq
  rw [Copy.rollbackTo?, Copy.rollbackTo?]
  cases hd : c.snapshots.dropWhile (·.1 != name) with
  | nil =>
    rw [hd, List.head?_nil] at newest
    rw [List.head?_eq_none_iff.1 newest.symm]
    exact .none
  | cons x older =>
    rw [hd, List.head?_cons] at newest
    obtain ⟨older', hd'⟩ := List.head?_eq_some_iff.1 newest.symm
    rw [hd, hd'] at kept
    rw [hd']
    exact .some ⟨rfl, kept⟩

/-- To set a savepoint again makes no difference. -/
lemma savepoint_again (policy : NameReuse) (name : String) (c : Copy δ) :
    ((c.savepoint policy name).savepoint policy name).Alike (c.savepoint policy name) := by
  refine ⟨rfl, ?_⟩
  -- the first lies right below the second, or the second has deleted it
  cases policy with
  | shadow => exact .again _ _
  | replace =>
    simp only [savepoint, Session.reuse, List.filter_cons, bne_self_eq_false, Bool.false_eq_true,
      ↓reduceIte, List.filter_filter, Bool.and_self]
    exact .refl _

/-- To go back again to a savepoint makes no difference. -/
lemma rollbackTo?_again (h : c.rollbackTo? name = some c') : c'.rollbackTo? name = some c' := by
  obtain ⟨-, older, hs⟩ := snapshots_of_rollbackTo? h
  -- the snapshot gone back to is the newest one now, so the search ends at once
  have found : c'.snapshots.dropWhile (·.1 != name) = (name, c'.data) :: older := by
    rw [hs, List.dropWhile_cons]
    simp
  rw [rollbackTo?, found]
  simp only [← hs]

/-- Both transactions are over, or their copies are alike. -/
abbrev AlikeIfAny : Option (Copy δ) → Option (Copy δ) → Prop :=
  Option.Rel Alike

namespace AlikeIfAny

variable {a b d : Option (Copy δ)}

lemma refl (a : Option (Copy δ)) : AlikeIfAny a a := by
  cases a with
  | none => exact .none
  | some c => exact .some (.refl c)

lemma symm (h : AlikeIfAny a b) : AlikeIfAny b a := by
  cases h with
  | none => exact .none
  | some h => exact .some h.symm

lemma trans (h : AlikeIfAny a b) (h' : AlikeIfAny b d) : AlikeIfAny a d := by
  cases h with
  | none => exact h'
  | some h =>
    cases h' with
    | some h' => exact .some (h.trans h')

lemma map_data (h : AlikeIfAny a b) : a.map (·.data) = b.map (·.data) := by
  cases h with
  | none => rfl
  | some h => exact congrArg some h.1

lemma map_withData (h : AlikeIfAny a b) (d : δ) :
    AlikeIfAny (a.map fun c => { c with data := d }) (b.map fun c => { c with data := d }) := by
  cases h with
  | none => exact .none
  | some h => exact .some ⟨rfl, h.2⟩

lemma exists_some (h : AlikeIfAny a b) {c : Copy δ} (ha : a = some c) :
    ∃ c', b = some c' ∧ c.Alike c' := by
  cases h with
  | none => cases ha
  | some h =>
    cases ha
    exact ⟨_, rfl, h⟩

end AlikeIfAny

end Copy

/-! ### Backends that are alike -/

namespace Stored

variable {s s' t t' u : Stored δ}

/-- The durable data are the same, and the copies of every transaction are alike. -/
structure Alike (s t : Stored δ) : Prop where
  durable : s.durable = t.durable
  copies (h : TransactionId) : Copy.AlikeIfAny (s.copies h) (t.copies h)

namespace Alike

lemma refl (s : Stored δ) : s.Alike s where
  durable := rfl
  copies _ := .refl _

lemma symm (alike : s.Alike t) : t.Alike s where
  durable := alike.durable.symm
  copies h := (alike.copies h).symm

lemma trans (alike : s.Alike t) (alike' : t.Alike u) : s.Alike u where
  durable := alike.durable.trans alike'.durable
  copies h := (alike.copies h).trans (alike'.copies h)

lemma put (alike : s.Alike t) {c c' : Option (Copy δ)} (h : TransactionId)
    (hc : Copy.AlikeIfAny c c') : (s.put h c).Alike (t.put h c') where
  durable := alike.durable
  copies := copies_put_related alike.copies h hc

lemma dataAt?_eq (alike : s.Alike t) (route : Route) : s.dataAt? route = t.dataAt? route := by
  cases route with
  | resource r => exact congrArg some alike.durable
  | transaction h => exact (alike.copies h).map_data

lemma setDataAt (alike : s.Alike t) (route : Route) (d : δ) :
    (s.setDataAt route d).Alike (t.setDataAt route d) := by
  cases route with
  | resource r => exact ⟨rfl, alike.copies⟩
  | transaction h =>
    exact alike.put h ((alike.copies h).map_withData d)

/-- What can be carried out on one can be carried out on the other. -/
lemma carryOut? (alike : s.Alike t) {c : Call} (h : s.carryOut? policy c = some s') :
    ∃ t', t.carryOut? policy c = some t' ∧ s'.Alike t' := by
  -- copies that are alike take the same step, and the backends differ in no other copy
  cases c with
  | commit k =>
    obtain ⟨c, hc, rfl⟩ := Option.map_eq_some_iff.1 h
    obtain ⟨c', hc', hcc⟩ := (alike.copies k).exists_some hc
    refine ⟨{ t.put k none with durable := c'.data }, by simp [Stored.carryOut?, hc'], ?_⟩
    exact ⟨hcc.1, (alike.put k .none).copies⟩
  | rollback k =>
    obtain ⟨c, hc, rfl⟩ := Option.map_eq_some_iff.1 h
    obtain ⟨c', hc', -⟩ := (alike.copies k).exists_some hc
    exact ⟨t.put k none, by simp [Stored.carryOut?, hc'], alike.put k .none⟩
  | savepoint k name =>
    obtain ⟨c, hc, rfl⟩ := Option.map_eq_some_iff.1 h
    obtain ⟨c', hc', hcc⟩ := (alike.copies k).exists_some hc
    refine ⟨t.put k (some (c'.savepoint policy name)), by simp [Stored.carryOut?, hc'], ?_⟩
    exact alike.put k (.some (hcc.savepoint policy name))
  | rollbackTo k name =>
    obtain ⟨d, hd, rfl⟩ := Option.map_eq_some_iff.1 h
    obtain ⟨c, hc, back⟩ := Option.bind_eq_some_iff.1 hd
    obtain ⟨c', hc', hcc⟩ := (alike.copies k).exists_some hc
    obtain ⟨d', back', hdd⟩ := Copy.AlikeIfAny.exists_some (hcc.rollbackTo? name) back
    refine ⟨t.put k (some d'), by simp [Stored.carryOut?, hc', back'], ?_⟩
    exact alike.put k (.some hdd)
  | _ => cases h

/-- Each step of one can be taken by the other. -/
lemma step (alike : s.Alike t) {x : CallExchange} (step : Step policy doubt effects s x s') :
    ∃ t', Step policy doubt effects t x t' ∧ s'.Alike t' := by
  cases step with
  | @begun r h fresh =>
    -- a handle is free on both or on neither
    have free : t.copies h = none := by
      have both := alike.copies h
      rw [fresh] at both
      cases ht : t.copies h with
      | none => rfl
      | some c =>
        rw [ht] at both
        cases both
    refine ⟨_, .begun free, ?_⟩
    rw [alike.durable]
    exact alike.put h (.refl _)
  | carried ok h =>
    obtain ⟨t', h', after⟩ := alike.carryOut? h
    exact ⟨t', .carried ok h', after⟩
  | failed error => exact ⟨t, .failed error, alike⟩
  | doubtful error inDoubt h =>
    obtain ⟨t', h', after⟩ := alike.carryOut? h
    exact ⟨t', .doubtful error inDoubt h', after⟩
  | discarded => exact ⟨_, .discarded, alike.put _ .none⟩
  | @executed route st r d d' met h =>
    rw [alike.dataAt?_eq] at met
    exact ⟨_, .executed met h, alike.setDataAt route d'⟩
  | @queried route st r d d' met h =>
    rw [alike.dataAt?_eq] at met
    exact ⟨_, .queried met h, alike.setDataAt route d'⟩
  | closed => exact ⟨t, .closed, alike⟩

end Alike

/-- To carry out a call about a savepoint again makes no difference. -/
lemma carryOut?_again {c : Call} (hc : c.isSavepoint = true)
    (h : s.carryOut? policy c = some s') :
    ∃ s'', s'.carryOut? policy c = some s'' ∧ s''.Alike s' := by
  cases c with
  | savepoint k name =>
    obtain ⟨c, -, rfl⟩ := Option.map_eq_some_iff.1 h
    refine ⟨(s.put k (some (c.savepoint policy name))).put k
      (some ((c.savepoint policy name).savepoint policy name)), by simp [carryOut?], ?_⟩
    -- setting the second snapshot in place of the first compares it with the first alone
    have same : (s.put k (some (c.savepoint policy name))).put k (some (c.savepoint policy name))
        = s.put k (some (c.savepoint policy name)) := by
      simp [put]
    have again := (Alike.refl (s.put k (some (c.savepoint policy name)))).put k
      (.some (c.savepoint_again policy name))
    rwa [same] at again
  | rollbackTo k name =>
    obtain ⟨d, hd, rfl⟩ := Option.map_eq_some_iff.1 h
    obtain ⟨c, -, back⟩ := Option.bind_eq_some_iff.1 hd
    refine ⟨s.put k (some d), ?_, .refl _⟩
    simp [carryOut?, Copy.rollbackTo?_again back, put]
  | _ => cases hc

end Stored

namespace Provider

variable {p q : Provider} {op : Operation} {s s' t : Stored δ} {c : Call}
  {wrap : DbError → DbError}

/-- Backends that are alike cannot be told apart from any provider on. -/
lemma outlook_eq (alike : s.Alike t) :
    outlook (Stored.Step policy doubt effects) p s
      = outlook (Stored.Step policy doubt effects) p t := by
  -- being alike is a simulation of the backend by itself, and it is symmetric
  have sim : Simulation (Stored.Step policy doubt effects) (Stored.Step policy doubt effects)
      fun _ s t => s.Alike t :=
    { sight_eq := fun alike => by rw [sight, sight, alike.dataAt?_eq, alike.durable]
      follow := fun alike _ path => path.follow (fun alike step => alike.step step) alike }
  exact Set.Subset.antisymm (sim.outlook_subset alike) (sim.outlook_subset alike.symm)

/-! ### Attempts -/

/-- The operation, whenever it is done. -/
def Operation.timeless : Operation → Operation
  | .enter _ => .enter 0
  | op => op

/-- Does the operation depend on a call about a savepoint? -/
def AtSavepoint (p : Provider) : Operation → Prop
  | .enter _ => p.transaction ≠ none
  | .rollback => p.transaction ≠ none ∧ 1 ≤ p.depth
  | .rollbackTo level => p.transaction ≠ none ∧ 1 ≤ level ∧ level ≤ p.depth
  | _ => False

/-- The call of the turn was carried out, but is reported as failed. -/
def Turn.InVain (policy : NameReuse) (u : Turn (Stored δ)) : Prop :=
  ∃ x e, u.calls = [x] ∧ x.result = .error e ∧ u.state.carryOut? policy x.1 = some u.nextState

lemma AtSavepoint.inside (h : p.AtSavepoint op) : ∃ t, p.transaction = some t := by
  apply Option.ne_none_iff_exists'.1
  cases op with
  | enter now => exact h
  | rollback => exact h.1
  | rollbackTo level => exact h.1
  | _ => cases h

lemma AtSavepoint.control? (h : p.AtSavepoint op) :
    ∃ c wrap, p.control? op = some (c, wrap) ∧ c.isSavepoint = true := by
  obtain ⟨t, ht⟩ := h.inside
  cases op with
  | enter now => exact ⟨_, _, by simp only [Provider.control?, ht]; rfl, rfl⟩
  | rollback =>
    have h0 : p.depth ≠ 0 := Nat.ne_of_gt h.2
    exact ⟨_, _, by simp only [Provider.control?, ht, h0, ↓reduceIte]; rfl, rfl⟩
  | rollbackTo level =>
    obtain ⟨-, hl⟩ := h
    exact ⟨_, _, by simp only [Provider.control?, ht, hl, and_self, ↓reduceIte]; rfl, rfl⟩
  | _ => cases h

lemma control?_timeless (p : Provider) (op : Operation) :
    p.control? op.timeless = p.control? op := by
  cases op with
  | enter now => cases h : p.transaction <;> simp only [control?, Operation.timeless, h]
  | _ => rfl

lemma perform_timeless {t : TransactionId} (h : p.transaction = some t) (op : Operation) :
    p.perform op.timeless = p.perform op := by
  cases op with
  | enter now => simp only [Operation.timeless, perform, enter, h]
  | _ => rfl

lemma isStep_of_control? (h : p.control? op = some (c, wrap)) : op.isStep = true := by
  cases op with
  | enter _ | commit | rollback | rollbackTo _ => rfl
  | _ => simp [control?] at h

/-- After attempts in vain the provider is the same, and the call leads where it led at first. -/
lemma Run.attempts {attempts : List (Turn (Stored δ))}
    (run : Run (Stored.Step policy doubt effects) p s attempts q t)
    (h : p.control? op = some (c, wrap)) (hc : c.isSavepoint = true)
    (same : ∀ v ∈ attempts, v.operation.timeless = op.timeless)
    (vain : ∀ v ∈ attempts, v.InVain policy) :
    q = p ∧ ∀ t', t.carryOut? policy c = some t' →
      ∃ s', s.carryOut? policy c = some s' ∧ t'.Alike s' := by
  induction run with
  | start => exact ⟨rfl, fun t' carried => ⟨t', carried, .refl t'⟩⟩
  | @turn attempts q r t t' op' calls a run course path ih =>
    obtain ⟨earlier, last⟩ := List.forall_mem_append.1 same
    obtain ⟨vainly, inVain⟩ := List.forall_mem_append.1 vain
    obtain ⟨rfl, back⟩ := ih earlier vainly
    -- the attempt depends on the same call as the step, as the provider has stayed the same
    have hop : q.control? op' = some (c, wrap) := by
      rw [← control?_timeless, List.forall_mem_singleton.1 last, control?_timeless, h]
    have move := Move.of_course course
    have step := isStep_of_control? hop
    obtain ⟨x, e, made, failed, carried⟩ := List.forall_mem_singleton.1 inVain
    obtain ⟨w, hw⟩ := move.calls_of_control? step hop
    obtain rfl : x = ⟨c, w⟩ := List.singleton_inj.1 (made.symm.trans hw)
    -- the provider did not move, since the call of the attempt failed
    constructor
    · rcases move.outcome step with ⟨_, -, -, -, still⟩ | ⟨_, _, _, -, -, -, -, still⟩ | ⟨-, ok⟩
      · exact still
      · exact still
      · rw [ok _ (hw ▸ List.mem_cons_self)] at failed
        cases failed
    -- a further call after this attempt is one time more than after the attempt itself, which
    -- makes no difference, and for that the earlier attempts are taken back
    · intro u hu
      obtain ⟨u', hu', again⟩ := Stored.carryOut?_again hc carried
      obtain rfl := Option.some.inj (hu.symm.trans hu')
      obtain ⟨s', hs', alike⟩ := back _ carried
      exact ⟨s', hs', again.trans alike⟩

/-- A step that depends on a savepoint may be tried again, however often it was in vain. Once it
succeeds, nothing that is seen from then on tells it from a step that succeeded at once: neither the
provider and its data nor any later history, in which failed calls may again be in doubt. -/
theorem retry_unseen {attempts : List (Turn (Stored δ))} {u : Turn (Stored δ)}
    (h : p.AtSavepoint op)
    (run : Run (Stored.Step policy (·.isSavepoint = true) effects) p s (attempts ++ [u]) q s')
    (same : ∀ v ∈ attempts ++ [u], v.operation.timeless = op.timeless)
    (vain : ∀ v ∈ attempts, v.InVain policy) (success : u.answer.error? = none) :
    ∃ s₁, Run (Stored.Step policy (fun _ => False) effects) p s
        [⟨p, s, op, u.calls, u.answer, q, s₁⟩] q s₁ ∧
      q.sight s' = q.sight s₁ ∧
      ∀ doubt, outlook (Stored.Step policy doubt effects) q s'
        = outlook (Stored.Step policy doubt effects) q s₁ := by
  obtain ⟨earlier, last⟩ := List.forall_mem_append.1 same
  obtain ⟨c, wrap, hop, hc⟩ := h.control?
  obtain ⟨t, ht⟩ := h.inside
  obtain ⟨before, move, path, rfl, rfl⟩ := run.of_concat
  obtain ⟨rfl, back⟩ := before.attempts hop hc earlier vain
  have timeless := List.forall_mem_singleton.1 last
  have hop' : u.provider.control? u.operation = some (c, wrap) := by
    rw [← control?_timeless, timeless, control?_timeless, hop]
  have step := isStep_of_control? hop'
  obtain ⟨w, hw⟩ := move.calls_of_control? step hop'
  -- the last turn succeeded, and so its call was carried out
  have ok : CallExchange.result ⟨c, w⟩ = .ok () := by
    rcases move.outcome step with ⟨_, -, -, failed, -⟩ | ⟨_, _, _, -, -, -, failed, -⟩ | ⟨-, ok⟩
    · simp [failed] at success
    · simp [failed] at success
    · exact ok _ (hw ▸ List.mem_cons_self)
  have hstep : c.isStep = true := by
    cases c with
    | savepoint _ _ | rollbackTo _ _ => rfl
    | _ => cases hc
  rw [hw] at path
  have carried := Stored.carryOut_of_step_ok (path_singleton_iff.1 path) ok hstep
  obtain ⟨s₁, hs₁, alike⟩ := back _ carried
  refine ⟨s₁, ?_, ?_, fun doubt => outlook_eq alike⟩
  · have course := move.course
    rw [← perform_timeless ht, timeless, perform_timeless ht] at course
    -- the same call, made on the backend before all attempts
    have at_once : Path (Stored.Step policy (fun _ => False) effects) s u.calls s₁ := by
      rw [hw]
      exact path_singleton_iff.2 (.carried ok hs₁)
    exact Run.turn .start course at_once
  · rw [sight, sight, alike.dataAt?_eq, alike.durable]

/-- A level is entered over a stale savepoint of its name. The first two attempts are in vain. -/
theorem retry_unseen_twice :
    ∃ (s s' s₁ : Stored (List Nat)) (p q : Provider) (attempts : List (Turn (Stored (List Nat))))
      (u : Turn (Stored (List Nat))),
      Run (Stored.Step .shadow (·.isSavepoint = true) Connection.counting.effects) p s
        (attempts ++ [u]) q s' ∧
      attempts.length = 2 ∧ p.depth = 0 ∧ q.depth = 1 ∧
      (s'.copies ⟨7⟩).map (·.snapshots.length) = some 4 ∧
      (s₁.copies ⟨7⟩).map (·.snapshots.length) = some 2 ∧
      ∀ doubt, outlook (Stored.Step .shadow doubt Connection.counting.effects) q s'
        = outlook (Stored.Step .shadow doubt Connection.counting.effects) q s₁ := by
  have run : Run (Stored.Step .shadow (·.isSavepoint = true) Connection.counting.effects)
      ⟨"prv_1", ⟨0⟩, some ⟨7⟩, 0, some 0⟩
      ⟨[], fun _ => some ⟨[0], [("prv_1_sp_1", [])]⟩⟩ [] _ _ := .start
  have run := run.turn (@Move.failed _ (.enter 1)
    ⟨.savepoint ⟨7⟩ "prv_1_sp_1", .error (.timeout "statement execution" 30)⟩ _ _ rfl rfl).course
    (path_singleton_iff.2 (.doubtful rfl rfl rfl))
  have run := run.turn (@Move.failed _ (.enter 2)
    ⟨.savepoint ⟨7⟩ "prv_1_sp_1", .error (.timeout "statement execution" 30)⟩ _ _ rfl rfl).course
    (path_singleton_iff.2 (.doubtful rfl rfl rfl))
  have run := run.turn (@Move.entered _ 3 ⟨7⟩ rfl).course
    (path_singleton_iff.2 (.carried rfl rfl))
  have depends : AtSavepoint ⟨"prv_1", ⟨0⟩, some ⟨7⟩, 0, some 0⟩ (.enter 1) := Option.some_ne_none _
  obtain ⟨s₁, at_once, -, alike⟩ := retry_unseen depends run (by simp [Operation.timeless])
    (List.forall_mem_cons.2 ⟨⟨_, _, rfl, rfl, rfl⟩,
      List.forall_mem_singleton.2 ⟨_, _, rfl, rfl, rfl⟩⟩) rfl
  obtain ⟨-, -, path, -, -⟩ := @Run.of_concat _ _ _ _ _ _ [] _ at_once
  have carried := Stored.carryOut_of_step_ok (path_singleton_iff.1 path) rfl rfl
  have once := congrArg (fun s => (s.copies ⟨7⟩).map (·.snapshots.length)) (Option.some.inj carried)
  exact ⟨_, _, s₁, _, _, _, _, run, rfl, rfl, rfl, rfl, once.symm, alike⟩

end Provider

end NestedTx
