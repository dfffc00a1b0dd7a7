import Mathlib.Algebra.Order.Group.Multiset
import NestedTx.Proofs.Provider.Naming
import NestedTx.Proofs.Provider.Protocol
import NestedTx.Proofs.Provider.Sight

/-!
# Providers side by side

Any number of providers share one resource, and their operations come in any order. No operation
makes more than one call, except that a close in a transaction makes first that of a drop and then
its own, so the turns are as fine as the calls. Each provider goes on as if it were alone with the
replies that it gets. What is in progress on the resource are the transactions of the providers, and
no two of them ever use the same name.
-/

namespace NestedTx

open Dialogue

/-- The calls, if they are the same, have the same reply. -/
def SameReply (x y : CallExchange) : Prop :=
  x.1 = y.1 → x = y

/-! ### Transactions in progress -/

/-- The transactions in progress after a call, if one knows those before it. -/
def CallExchange.progress (before : Multiset TransactionId) : CallExchange → Multiset TransactionId
  | ⟨.begin _, .ok t⟩ => t ::ₘ before
  | ⟨.commit t, .ok _⟩ => before.erase t
  | ⟨.rollback t, .ok _⟩ => before.erase t
  | ⟨.discard t, _⟩ => before.erase t
  | _ => before

/-- The transactions that were begun, and neither committed, nor rolled back, nor discarded. -/
def inProgress (l : List CallExchange) : Multiset TransactionId :=
  l.foldl CallExchange.progress 0

lemma CallExchange.progress_error {x : CallExchange} {e : DbError} (h : x.result = .error e)
    (m : Multiset TransactionId) : progress m x = m := by
  obtain ⟨c, w⟩ := x
  cases c with
  | begin _ | commit _ | rollback _ =>
    cases w with
    | ok _ => cases h
    | error _ => rfl
  | discard _ => cases h
  | _ => rfl

namespace Provider

variable {p q : Provider} {op : Operation} {calls : List CallExchange} {a : Answer}

/-- The transactions that providers have open. -/
def held (ps : List Provider) : Multiset TransactionId :=
  (ps.filterMap fun p => p.transaction : List TransactionId)

lemma held_cons (p : Provider) (ps : List Provider) : held (p :: ps) = held [p] + held ps := by
  cases h : p.transaction <;> simp [held, h]

lemma held_of_idle (h : p.transaction = none) : held [p] = 0 := by
  simp [held, h]

lemma held_atDepth (p : Provider) (depth : Nat) : held [p.atDepth depth] = held [p] := rfl

lemma held_of_inside {t : TransactionId} (h : p.transaction = some t) :
    held [p] = {t} := by
  simp [held, h]

lemma card_held (ps : List Provider) : (held ps).card = ps.countP (·.inTransaction) := by
  induction ps with
  | nil => rfl
  | cons p ps ih =>
    rw [held_cons, Multiset.card_add, ih, List.countP_cons]
    cases h : p.transaction with
    | none => simp [held, h, inTransaction]
    | some t => simp [held, h, inTransaction, Nat.add_comm]

/-- What providers have open is that of one of them, and that of the others. -/
lemma exists_others {ps : List Provider} {i : Nat} (h : ps[i]? = some p) :
    ∃ others, held ps = held [p] + others ∧ ∀ q, held (ps.set i q) = held [q] + others := by
  induction ps generalizing i with
  | nil => cases h
  | cons p' ps ih =>
    cases i with
    | zero =>
      obtain rfl := Option.some.inj h
      exact ⟨held ps, held_cons p' ps, fun q => held_cons q ps⟩
    | succ i =>
      obtain ⟨others, all, set⟩ := ih h
      refine ⟨held [p'] + others, ?_, fun q => ?_⟩
      · rw [held_cons, all, add_left_comm]
      · rw [List.set_cons_succ, held_cons, set, add_left_comm]

/-- An operation changes what is in progress as it changes what its provider has open. -/
lemma Move.progress (move : p.Move op calls a q) (others : Multiset TransactionId) :
    calls.foldl CallExchange.progress (held [p] + others) = held [q] + others := by
  cases move with
  | refused h => rfl
  | failed h hx => exact CallExchange.progress_error hx _
  | @begun now t h =>
    rw [held_of_idle h, Multiset.zero_add]
    exact (Multiset.singleton_add t others).symm
  | entered h | returned h _ _ | left h _ | undone h _ =>
    rw [held_atDepth, held_of_inside h]
    rfl
  | @committed t h _ | @rolledBack t h _ =>
    rw [held_of_inside h, Multiset.singleton_add]
    exact (Multiset.erase_cons_head t others).trans (Multiset.zero_add others).symm
  | passed h _ => rfl
  | executed _ _ | queried _ _ | closed _ | dropped _ => rfl
  | @abandoned t h | @discarded t h =>
    rw [held_of_inside h, Multiset.singleton_add]
    exact (Multiset.erase_cons_head t others).trans (Multiset.zero_add others).symm

lemma Run.name_of_mem {σ : Type} {Step : σ → CallExchange → σ → Prop} {p₀ : Provider} {s₀ s : σ}
    {history : List (Turn σ)} (run : Run Step p₀ s₀ history p s) {u : Turn σ} (hu : u ∈ history)
    {x : CallExchange} (hx : x ∈ u.calls) {name : String} (h : x.1.savepoint? = some name) :
    ∃ k, name = Savepoint.name p₀.id k := by
  obtain ⟨before, after, rfl⟩ := List.append_of_mem hu
  obtain ⟨earlier, move⟩ := run.of_append_cons
  obtain ⟨k, -, rfl⟩ := move.name_of_mem hx h
  exact ⟨k, by rw [savepointName, earlier.id_eq]⟩

/-! ### Interleavings -/

variable {σ : Type} {Step : σ → CallExchange → σ → Prop} {ps₀ ps : List Provider} {s₀ s : σ}
  {history : List (Nat × Turn σ)} {i j : Nat}

/-- The histories of providers that share a partner. Each turn is that of one provider, and comes
with its place. -/
inductive Together (Step : σ → CallExchange → σ → Prop) (ps₀ : List Provider) (s₀ : σ) :
    List (Nat × Turn σ) → List Provider → σ → Prop
  | start : Together Step ps₀ s₀ [] ps₀ s₀
  | turn {history : List (Nat × Turn σ)} {ps : List Provider} {i : Nat} {p q : Provider} {s s' : σ}
      {op : Operation} {calls : List CallExchange} {a : Answer}
      (run : Together Step ps₀ s₀ history ps s) (picked : ps[i]? = some p)
      (course : Course (p.perform op) calls (a, q)) (path : Path Step s calls s') :
      Together Step ps₀ s₀ (history ++ [(i, ⟨p, s, op, calls, a, q, s'⟩)]) (ps.set i q) s'

/-- A turn without the partner. -/
def Turn.bare (u : Turn σ) : Turn Unit :=
  u.map fun _ => ()

/-- The turns of one provider. -/
def turnsOf (i : Nat) (history : List (Nat × Turn σ)) : List (Turn Unit) :=
  (history.filter (·.1 == i)).map (·.2.bare)

lemma turnsOf_concat_self (i : Nat) (history : List (Nat × Turn σ)) (u : Turn σ) :
    turnsOf i (history ++ [(i, u)]) = turnsOf i history ++ [u.bare] := by
  simp [turnsOf]

lemma turnsOf_concat_ne (h : j ≠ i) (history : List (Nat × Turn σ)) (u : Turn σ) :
    turnsOf i (history ++ [(j, u)]) = turnsOf i history := by
  simp [turnsOf, h]

/-- The calls of all providers. -/
def callsOf (history : List (Nat × Turn σ)) : List CallExchange :=
  history.flatMap (·.2.calls)

lemma inProgress_concat (history : List (Nat × Turn σ)) (i : Nat) (u : Turn σ) :
    inProgress (callsOf (history ++ [(i, u)]))
      = u.calls.foldl CallExchange.progress (inProgress (callsOf history)) := by
  simp [inProgress, callsOf]

namespace Together

lemma of_concat {u : Turn σ} (together : Together Step ps₀ s₀ (history ++ [(i, u)]) ps s) :
    ∃ before, Together Step ps₀ s₀ history before u.state ∧ before[i]? = some u.provider ∧
      u.provider.Move u.operation u.calls u.answer u.next ∧ ps = before.set i u.next := by
  generalize hl : history ++ [(i, u)] = l at together
  cases together with
  | start => exact absurd hl (by simp)
  | turn together picked course path =>
    obtain ⟨rfl, turn⟩ := List.append_singleton_inj.1 hl
    cases turn
    exact ⟨_, together, picked, Move.of_course course, rfl⟩

lemma of_prefix {after : List (Nat × Turn σ)}
    (together : Together Step ps₀ s₀ (history ++ after) ps s) :
    ∃ ps s, Together Step ps₀ s₀ history ps s := by
  induction after using List.reverseRecOn generalizing ps s with
  | nil =>
    rw [List.append_nil] at together
    exact ⟨ps, s, together⟩
  | append_singleton after last ih =>
    rw [← List.append_assoc] at together
    obtain ⟨_, earlier, -⟩ := together.of_concat
    exact ih earlier

/-- The turns of a provider are a run of its own. -/
lemma exists_run (together : Together Step ps₀ s₀ history ps s) {p₀ : Provider}
    (h : ps₀[i]? = some p₀) :
    ∃ p, ps[i]? = some p ∧ Run (fun _ _ _ => True) p₀ () (turnsOf i history) p () := by
  induction together with
  | start => exact ⟨p₀, h, .start⟩
  | @turn history ps j p' q s s' op calls a together picked course path ih =>
    obtain ⟨p, hp, run⟩ := ih
    -- a turn of another provider neither changes this one nor is a turn of it
    by_cases hj : j = i
    · subst hj
      obtain rfl := Option.some.inj (picked.symm.trans hp)
      obtain ⟨hi, -⟩ := List.getElem?_eq_some_iff.1 picked
      refine ⟨q, List.getElem?_set_self hi, ?_⟩
      rw [turnsOf_concat_self]
      exact run.turn course (path.map (fun _ => ()) fun _ => trivial)
    · refine ⟨p, ?_, ?_⟩
      · rw [List.getElem?_set_ne hj, hp]
      · rw [turnsOf_concat_ne hj]
        exact run

/-- Nobody takes the turns of a provider that is not there. -/
lemma turnsOf_eq_nil (together : Together Step ps₀ s₀ history ps s) (h : ps₀[i]? = none) :
    ps[i]? = none ∧ turnsOf i history = [] := by
  induction together with
  | start => exact ⟨h, rfl⟩
  | @turn history ps j p' q s s' op calls a together picked course path ih =>
    obtain ⟨missing, none⟩ := ih
    have hj : j ≠ i := by
      rintro rfl
      rw [missing] at picked
      cases picked
    rw [List.getElem?_set_ne hj, turnsOf_concat_ne hj]
    exact ⟨missing, none⟩

/-- What is in progress on the partner is what the providers have open. -/
lemma inProgress_eq (together : Together Step ps₀ s₀ history ps s) (idle : held ps₀ = 0) :
    inProgress (callsOf history) = held ps := by
  induction together with
  | start => exact idle.symm
  | turn together picked course path ih =>
    obtain ⟨others, all, set⟩ := exists_others picked
    rw [inProgress_concat, ih, all, set]
    exact (Move.of_course course).progress others

/-- A turn changes what is in progress only by what its provider has open. -/
lemma progress {u : Turn σ} (together : Together Step ps₀ s₀ (history ++ [(i, u)]) ps s)
    (idle : held ps₀ = 0) :
    ∃ others, inProgress (callsOf history) = held [u.provider] + others ∧
      inProgress (callsOf (history ++ [(i, u)])) = held [u.next] + others := by
  obtain ⟨before, earlier, picked, -, rfl⟩ := together.of_concat
  obtain ⟨others, all, set⟩ := exists_others picked
  refine ⟨others, ?_, ?_⟩
  · rw [earlier.inProgress_eq idle, all]
  · rw [together.inProgress_eq idle, set]

end Together

lemma held_new (ids : List String) (r : ResourceId) :
    held (ids.map fun id => Provider.new id r) = 0 := by
  induction ids with
  | nil => rfl
  | cons id ids ih =>
    rw [List.map_cons, held_cons, ih, held_of_idle rfl]
    rfl

/-- Providers with ids of their own do not disturb each other, whatever is replied to them and in
whichever order they are used. The turns of each are a run of its own, and the only one that the
same operations can have with the same replies. In progress are just the transactions of the
providers that are in one. No two providers use the same name. And a turn leaves the transactions of
the others in progress; after a close or a drop, these are all. -/
theorem independent {ids : List String} (distinct : ids.Nodup) {r : ResourceId}
    (together : Together Step (ids.map fun id => Provider.new id r) s₀ history ps s) :
    (∀ i id, ids[i]? = some id →
      ∃ p, ps[i]? = some p ∧
        Run (fun _ _ _ => True) (Provider.new id r) () (turnsOf i history) p () ∧
        ∀ {τ : Type} {Alone : τ → CallExchange → τ → Prop} {t₀ t : τ} {alone : List (Turn τ)}
          {q : Provider}, Run Alone (Provider.new id r) t₀ alone q t →
            List.Forall₂ (Turn.Parallel SameReply) (turnsOf i history) alone →
              alone.map Turn.bare = turnsOf i history ∧ q = p) ∧
    inProgress (callsOf history) = held ps ∧
    (inProgress (callsOf history)).card = ps.countP (·.inTransaction) ∧
    (∀ i j, i ≠ j → ∀ u ∈ turnsOf i history, ∀ v ∈ turnsOf j history, ∀ x ∈ u.calls, ∀ y ∈ v.calls,
      ∀ name, x.1.savepoint? = some name → y.1.savepoint? ≠ some name) ∧
    ∀ before i u after, history = before ++ (i, u) :: after →
      ∃ others, inProgress (callsOf before) = held [u.provider] + others ∧
        inProgress (callsOf (before ++ [(i, u)])) = held [u.next] + others ∧
        (u.operation = .close ∨ u.operation = .drop → held [u.next] = 0) := by
  have idle := held_new ids r
  have one_run {i : Nat} {id : String} (h : ids[i]? = some id) :
      ∃ p, ps[i]? = some p ∧
        Run (fun _ _ _ => True) (Provider.new id r) () (turnsOf i history) p () := by
    apply together.exists_run
    rw [List.getElem?_map, h, Option.map_some]
  have present {i : Nat} {u : Turn Unit} (hu : u ∈ turnsOf i history) :
      ∃ id, ids[i]? = some id := by
    cases h : ids[i]? with
    | some id => exact ⟨id, rfl⟩
    | none =>
      have missing : (ids.map fun id => Provider.new id r)[i]? = none := by
        rw [List.getElem?_map, h, Option.map_none]
      rw [(together.turnsOf_eq_nil missing).2] at hu
      cases hu
  refine ⟨?_, together.inProgress_eq idle, ?_, ?_, ?_⟩
  · intro i id h
    obtain ⟨p, hp, run⟩ := one_run h
    refine ⟨p, hp, run, ?_⟩
    intro τ Alone t₀ t alone q run' parallel
    have bare : Run (fun _ _ _ => True) (Provider.new id r) () (alone.map Turn.bare) q () :=
      run'.map (fun _ => ()) fun _ => trivial
    -- a provider has no choice of its own: the replies settle its run
    have determined : Determines SameReply fun (_ : Unit) _ _ => True :=
      fun _ _ _ _ _ _ _ same replies => ⟨replies same, rfl⟩
    obtain ⟨same, rfl, -⟩ := run.unique determined bare (List.forall₂_map_right_iff.2 parallel)
    exact ⟨same.symm, rfl⟩
  · rw [together.inProgress_eq idle, card_held]
  · intro i j hij u hu v hv x hx y hy name h h'
    obtain ⟨id, hi⟩ := present hu
    obtain ⟨id', hj⟩ := present hv
    obtain ⟨_, -, run⟩ := one_run hi
    obtain ⟨_, -, run'⟩ := one_run hj
    obtain ⟨k, rfl⟩ := run.name_of_mem hu hx h
    obtain ⟨k', hk⟩ := run'.name_of_mem hv hy h'
    -- a name tells the id it was made with, and ids are distinct
    have same : id = id' := Savepoint.id_eq_of_name_eq hk
    subst same
    obtain ⟨bound, -⟩ := List.getElem?_eq_some_iff.1 hi
    exact hij ((List.getElem?_inj bound distinct).1 (hi.trans hj.symm))
  · rintro before i u after rfl
    rw [List.append_cons] at together
    obtain ⟨_, _, upTo⟩ := together.of_prefix
    obtain ⟨others, before, after⟩ := upTo.progress idle
    obtain ⟨_, -, -, move, -⟩ := upTo.of_concat
    exact ⟨others, before, after, fun gone => held_of_idle (move.over gone)⟩

/-- Two providers enter two levels each, and one of them is closed. The id of the other is the name
of its savepoint. -/
theorem independent_closed :
    ∃ (history : List (Nat × Turn Unit)) (ps : List Provider),
      Together (fun _ _ _ => True)
        (["prv_1", "prv_1_sp_1"].map fun id => Provider.new id ⟨0⟩) () history ps () ∧
      history.length = 5 ∧ inProgress (callsOf history) = {⟨8⟩} ∧
      ps.countP (·.inTransaction) = 1 ∧
      ∃ p, ps[1]? = some p ∧
        Run (fun _ _ _ => True) (Provider.new "prv_1_sp_1" ⟨0⟩) () (turnsOf 1 history) p () := by
  have together : Together (fun (_ : Unit) _ _ => True)
      (["prv_1", "prv_1_sp_1"].map fun id => Provider.new id ⟨0⟩) () [] _ _ := .start
  have together := together.turn (i := 0) rfl (@Move.begun _ 0 ⟨7⟩ rfl).course
    (.cons trivial (.nil ()))
  have together := together.turn (i := 1) rfl (@Move.begun _ 1 ⟨8⟩ rfl).course
    (.cons trivial (.nil ()))
  have together := together.turn (i := 0) rfl (@Move.entered _ 2 ⟨7⟩ rfl).course
    (.cons trivial (.nil ()))
  have together := together.turn (i := 1) rfl (@Move.entered _ 3 ⟨8⟩ rfl).course
    (.cons trivial (.nil ()))
  have together := together.turn (i := 0) rfl (@Move.abandoned _ ⟨7⟩ rfl).course
    (@Path.cons _ _ _ _ () () () _ _ trivial (.cons trivial (.nil ())))
  obtain ⟨alone, inProgress_eq, card, -⟩ := independent (by decide) together
  obtain ⟨p, hp, run, -⟩ := alone 1 _ rfl
  exact ⟨_, _, together, rfl, inProgress_eq, rfl, p, hp, run⟩

end Provider

end NestedTx
