import NestedTx.Proofs.Registration.World

/-!
# Private pools

Whatever happens side by side, each registration keeps to its course and to a pool of its own. What
is in the registry, and what is closed because everything is, is never the pool of a registration
that has not put it there.
-/

namespace NestedTx.Registration

variable {w w' : World} {past : List World} {action : World.Action} {g : Registry ResourceId}
  {name : String} {r : ResourceId} {h h' : Holdings}

/-! ### Calls that close everything -/

/-- What is left of a call that closes everything. The pools that it is still to close have a
property. -/
inductive Sweep (P : ResourceId → Prop) : HostDialogue Unit → Prop
  | all : Sweep P closeAll
  | each {l : List ResourceId} (h : ∀ r ∈ l, P r) : Sweep P (closeEach l)

lemma Sweep.mono {P Q : ResourceId → Prop} {d : HostDialogue Unit} (imp : ∀ {r}, P r → Q r)
    (sweep : Sweep P d) : Sweep Q d := by
  cases sweep with
  | all => exact .all
  | each h => exact .each fun r hr => imp (h r hr)

lemma Sweep.next {P : ResourceId → Prop} {call : HostCall} {reply : call.Reply}
    {k : call.Reply → HostDialogue Unit} (sweep : Sweep P (.ask call k))
    (replies : Replies h ⟨call, reply⟩ h') :
    (call = .drain ∧ h' = { h with registry := .empty } ∧
        k reply = closeEach (h.registry.entries.map (·.2))) ∨
      ∃ r, P r ∧ call = .resource (.close r) ∧ h' = { h with closed := r :: h.closed } ∧
        Sweep P (k reply) := by
  generalize hd : Dialogue.ask call k = d at sweep
  cases sweep with
  | all =>
    cases hd
    cases replies
    exact .inl ⟨rfl, rfl, rfl⟩
  | @each l all =>
    cases l with
    | nil => cases hd
    | cons r rest =>
      cases hd
      cases replies
      exact .inr ⟨r, all r List.mem_cons_self, rfl, rfl,
        .each fun r' hr' => all r' (List.mem_cons_of_mem _ hr')⟩

/-! ### What a step does to registrations -/

namespace World

def Public (w : World) (r : ResourceId) : Prop :=
  r ∈ w.known ∧ ¬ w.Private r

/-- After a step a registration is as before, or new, or one exchange further. -/
lemma Step.attempts (step : Step w action w') {i : Nat} {b : Attempt}
    (hb : w'.attempts[i]? = some b) :
    w.attempts[i]? = some b ∨ b = ⟨b.config, [], registerDatabase b.config⟩ ∨
      ∃ a call reply next, w.attempts[i]? = some a ∧ action = .attempt i call ∧
        a.rest = .ask call next ∧ Replies w.toHoldings ⟨call, reply⟩ w'.toHoldings ∧
        b = ⟨a.config, a.made ++ [⟨call, reply⟩], next reply⟩ := by
  cases step with
  | start config =>
    rw [List.getElem?_append, List.getElem?_singleton] at hb
    split at hb
    · exact .inl hb
    · split at hb
      · cases hb
        exact .inr (.inl rfl)
      · cases hb
  | @attempt j a call reply next h among ask replies =>
    -- a step of another attempt leaves this one where it was
    by_cases same : j = i
    · subst same
      rw [List.getElem?_set_self (List.getElem?_eq_some_iff.1 among).1] at hb
      cases hb
      exact .inr (.inr ⟨a, call, reply, next, among, rfl, ask, replies, rfl⟩)
    · rw [List.getElem?_set_ne same] at hb
      exact .inl hb
  | _ => exact .inl hb

lemma Step.known_mono (step : Step w action w') (h : r ∈ w.known) : r ∈ w'.known := by
  cases step with
  | attempt _ _ replies | sweeping _ replies =>
    cases replies with
    | connected => exact List.mem_cons_of_mem _ h
    | _ => exact h
  | register => exact List.mem_cons_of_mem _ h
  | _ => exact h

/-- A pool that a registration has connected after a step was connected before or is new. -/
lemma Step.connected (step : Step w action w') {i : Nat} {b : Attempt}
    (hb : w'.attempts[i]? = some b) (connected : b.Connected r) :
    (∃ a, w.attempts[i]? = some a ∧ a.Connected r ∧ (a.Inserted r → b.Inserted r)) ∨
      r ∉ w.known ∧ r ∈ w'.known ∧ ∃ call, action = .attempt i call := by
  obtain hb | new | ⟨a, call, reply, next, ha, rfl, -, replies, rfl⟩ := step.attempts hb
  · exact .inl ⟨b, hb, connected, id⟩
  · rw [new] at connected
    cases connected
  · obtain connected | connected := List.mem_append.1 connected
    · exact .inl ⟨a, ha, connected, fun inserted => List.mem_append_left _ inserted⟩
    · rw [← List.mem_singleton.1 connected] at replies
      exact .inr ⟨replies.fresh.1, replies.fresh.2, _, rfl⟩

lemma Step.returned (step : Step w action w') {i : Nat} {a : Attempt}
    (ha : w.attempts[i]? = some a) {result : DbResult ConnectionInfo}
    (returned : a.result? = some result) : w'.attempts[i]? = some a := by
  cases step with
  | start config =>
    exact (List.getElem?_append_left (List.getElem?_eq_some_iff.1 ha).1).trans ha
  | @attempt j b _ _ _ _ among ask _ =>
    have other : j ≠ i := by
      rintro rfl
      cases among.symm.trans ha
      rw [Attempt.result?, ask] at returned
      cases returned
    exact (List.getElem?_set_ne other).trans ha
  | _ => exact ha

/-- A pool that is not private stays so. -/
lemma Step.public_mono (step : Step w action w') (h : w.Public r) : w'.Public r := by
  refine ⟨step.known_mono h.1, ?_⟩
  rintro ⟨b, hb, connected, notInserted⟩
  obtain ⟨i, hb⟩ := List.mem_iff_getElem?.1 hb
  obtain ⟨a, ha, connected, inserted⟩ | ⟨new, -⟩ := step.connected hb connected
  · exact h.2 ⟨a, List.mem_of_getElem? ha, connected, fun h => notInserted (inserted h)⟩
  · exact new h.1

end World

/-! ### What holds at all times -/

/-- Registrations keep to their course and have pools of their own, and whatever was ever in the
registry or was closed without having been private is not private. -/
structure Sound (past : List World) (w : World) : Prop where
  staged : ∀ {a}, a ∈ w.attempts → ∃ s, a.At s
  known : ∀ {a : Attempt} {r}, a ∈ w.attempts → a.Connected r → r ∈ w.known
  apart : ∀ {i j : Nat} {a b : Attempt} {r}, w.attempts[i]? = some a → w.attempts[j]? = some b →
    a.Connected r → b.Connected r → i = j
  listed : ∀ {v name r}, v ∈ past ++ [w] → v.registry.get? name = some r → w.Public r
  swept : ∀ {d}, d ∈ w.sweeps → Sweep w.Public d
  closed : ∀ {r}, r ∈ w.closed → w.Public r ∨ ∃ a ∈ w.attempts, ∃ v, a.At (.lost r v)

namespace Sound

lemma next (sound : Sound past w) {i : Nat} {a : Attempt} {call : HostCall} {reply : call.Reply}
    {k : call.Reply → HostDialogue (DbResult ConnectionInfo)} (among : w.attempts[i]? = some a)
    (ask : a.rest = .ask call k) (replies : Replies w.toHoldings ⟨call, reply⟩ h) :
    ∃ s s', a.At s ∧ Attempt.At ⟨a.config, a.made ++ [⟨call, reply⟩], k reply⟩ s' ∧
      Stage.Next a.config w.toHoldings s s' h := by
  obtain ⟨s, hs⟩ := sound.staged (List.mem_of_getElem? among)
  obtain ⟨s', made, rest, next⟩ := Stage.next (hs.2 ▸ ask) replies
  exact ⟨s, s', hs, ⟨by rw [made, hs.1], rest.symm⟩, next⟩

/-- A call that closes everything empties the registry, or closes a pool that is not private. -/
lemma sweep_next (sound : Sound past w) {i : Nat} {call : HostCall} {reply : call.Reply}
    {k : call.Reply → HostDialogue Unit} (among : w.sweeps[i]? = some (.ask call k))
    (replies : Replies w.toHoldings ⟨call, reply⟩ h) :
    (call = .drain ∧ h = { w.toHoldings with registry := .empty } ∧
        k reply = closeEach (w.registry.entries.map (·.2))) ∨
      ∃ r, w.Public r ∧ call = .resource (.close r) ∧
        h = { w.toHoldings with closed := r :: w.closed } ∧ Sweep w.Public (k reply) :=
  (sound.swept (List.mem_of_getElem? among)).next replies

lemma staged_step (sound : Sound past w) (step : w.Step action w') {b : Attempt}
    (hb : b ∈ w'.attempts) : ∃ s, b.At s := by
  obtain ⟨i, hb⟩ := List.mem_iff_getElem?.1 hb
  obtain hb | new | ⟨a, call, reply, k, ha, -, ask, replies, rfl⟩ := step.attempts hb
  · exact sound.staged (List.mem_of_getElem? hb)
  · rw [new]
    exact ⟨.checking, rfl, rfl⟩
  · obtain ⟨-, s', -, at', -⟩ := sound.next ha ask replies
    exact ⟨s', at'⟩

lemma known_step (sound : Sound past w) (step : w.Step action w') {b : Attempt}
    (hb : b ∈ w'.attempts) (connected : b.Connected r) : r ∈ w'.known := by
  obtain ⟨i, hb⟩ := List.mem_iff_getElem?.1 hb
  obtain ⟨a, ha, connected, -⟩ | ⟨-, known, -⟩ := step.connected hb connected
  · exact step.known_mono (sound.known (List.mem_of_getElem? ha) connected)
  · exact known

lemma apart_step (sound : Sound past w) (step : w.Step action w') {i j : Nat} {b c : Attempt}
    (hb : w'.attempts[i]? = some b) (hc : w'.attempts[j]? = some c) (connected : b.Connected r)
    (connected' : c.Connected r) : i = j := by
  obtain ⟨a, ha, h, -⟩ | ⟨new, -, call, act⟩ := step.connected hb connected
  · obtain ⟨a', ha', h', -⟩ | ⟨new, -⟩ := step.connected hc connected'
    · exact sound.apart ha ha' h h'
    · exact absurd (sound.known (List.mem_of_getElem? ha) h) new
  · obtain ⟨a', ha', h', -⟩ | ⟨-, -, call', act'⟩ := step.connected hc connected'
    · exact absurd (sound.known (List.mem_of_getElem? ha') h') new
    -- both have got the pool in this step, so they are one
    · cases act.symm.trans act'
      rfl

/-- A pool is not private once its registration has put it into the registry. -/
lemma public_of_inserted (sound : Sound past w) (step : w.Step action w') {i : Nat} {b : Attempt}
    (hb : w'.attempts[i]? = some b) (connected : b.Connected r) (inserted : b.Inserted r) :
    w'.Public r := by
  refine ⟨sound.known_step step (List.mem_of_getElem? hb) connected, ?_⟩
  rintro ⟨c, hc, connected', notInserted⟩
  obtain ⟨j, hc⟩ := List.mem_iff_getElem?.1 hc
  cases sound.apart_step step hb hc connected connected'
  cases hb.symm.trans hc
  exact notInserted inserted

/-- What is in the registry after a step is not private. -/
lemma listed_step (sound : Sound past w) (step : w.Step action w')
    (listed : w'.registry.get? name = some r) : w'.Public r := by
  have before (listed : w.registry.get? name = some r) : w'.Public r :=
    step.public_mono (sound.listed (by simp) listed)
  -- a pool becomes public when its claim is granted, in the very step that lists it
  have inserted {i : Nat} {b : Attempt} := @public_of_inserted _ _ _ _ r sound step i b
  cases step with
  | @attempt i a call reply k h among ask replies =>
    obtain ⟨s, s', -, at', next⟩ := sound.next among ask replies
    cases next with
    | won r' v free =>
      obtain listed | ⟨-, -, rfl⟩ := Registry.get?_claim_iff.1 listed
      · exact before listed
      · exact inserted (List.getElem?_set_self (List.getElem?_eq_some_iff.1 among).1)
          (at'.connected_iff.2 rfl) (at'.inserted_iff.2 ⟨v, rfl⟩)
    | _ => exact before listed
  | sweeping among replies =>
    obtain ⟨-, rfl, -⟩ | ⟨_, -, -, rfl, -⟩ := sound.sweep_next among replies
    · cases listed
    · exact before listed
  | @register name' r' notPrivate =>
    rw [Registry.register_eq] at listed
    obtain listed | ⟨-, -, rfl⟩ := Registry.get?_claim_iff.1 listed
    · exact before listed
    · exact ⟨List.mem_cons_self, notPrivate⟩
  | unregister name' =>
    rw [Registry.get?_unregister] at listed
    split at listed
    · cases listed
    · exact before listed
  | _ => exact before listed

lemma swept_step (sound : Sound past w) (step : w.Step action w') {d : HostDialogue Unit}
    (hd : d ∈ w'.sweeps) : Sweep w'.Public d := by
  have before {d : HostDialogue Unit} (hd : d ∈ w.sweeps) : Sweep w'.Public d :=
    (sound.swept hd).mono step.public_mono
  have keep {r : ResourceId} (h : w.Public r) : w'.Public r := step.public_mono h
  cases step with
  | sweep =>
    obtain hd | hd := List.mem_append.1 hd
    · exact before hd
    · cases List.mem_singleton.1 hd
      exact .all
  | sweeping among replies =>
    obtain hd | rfl := List.mem_or_eq_of_mem_set hd
    · exact before hd
    · obtain ⟨-, rfl, rest⟩ | ⟨_, -, -, rfl, sweep⟩ := sound.sweep_next among replies
      · rw [rest]
        apply Sweep.each
        intro r hr
        obtain ⟨e, he, rfl⟩ := List.mem_map.1 hr
        exact keep (sound.listed (by simp) (Registry.get?_eq_some_iff.2 he))
      · exact sweep.mono keep
  | _ => exact before hd

lemma closed_step (sound : Sound past w) (step : w.Step action w') (closed : r ∈ w'.closed) :
    w'.Public r ∨ ∃ a ∈ w'.attempts, ∃ v, a.At (.lost r v) := by
  have before (closed : r ∈ w.closed) :
      w'.Public r ∨ ∃ a ∈ w'.attempts, ∃ v, a.At (.lost r v) := by
    obtain isPublic | ⟨a, ha, v, lost⟩ := sound.closed closed
    · exact .inl (step.public_mono isPublic)
    -- an attempt that lost has returned, and stays as it is
    · obtain ⟨i, ha⟩ := List.mem_iff_getElem?.1 ha
      exact .inr ⟨a, List.mem_of_getElem? (step.returned ha lost.result?), v, lost⟩
  have keep : w.Public r → w'.Public r := step.public_mono
  cases step with
  | attempt among ask replies =>
    obtain ⟨s, s', -, at', next⟩ := sound.next among ask replies
    cases next with
    | closed r' v =>
      obtain rfl | closed := List.mem_cons.1 closed
      · exact .inr ⟨_, List.mem_set (List.getElem?_eq_some_iff.1 among).1 _, v, at'⟩
      · exact before closed
    | _ => exact before closed
  | sweeping among replies =>
    obtain ⟨-, rfl, -⟩ | ⟨r', isPublic, -, rfl, -⟩ := sound.sweep_next among replies
    · exact before closed
    · obtain rfl | closed := List.mem_cons.1 closed
      · exact .inl (keep isPublic)
      · exact before closed
  | _ => exact before closed

lemma step (sound : Sound past w) (step : w.Step action w') : Sound (past ++ [w]) w' where
  staged := sound.staged_step step
  known := sound.known_step step
  apart := sound.apart_step step
  listed hv listed := by
    obtain hv | hv := List.mem_append.1 hv
    · exact step.public_mono (sound.listed hv listed)
    · cases List.mem_singleton.1 hv
      exact sound.listed_step step listed
  swept := sound.swept_step step
  closed := sound.closed_step step

lemma initial (g : Registry ResourceId) : Sound [] (World.initial g) where
  staged h := by cases h
  known h := by cases h
  apart h := by cases h
  listed hv listed := by
    cases List.mem_singleton.1 hv
    refine ⟨List.mem_map_of_mem (Registry.get?_eq_some_iff.1 listed), ?_⟩
    rintro ⟨a, ha, -⟩
    cases ha
  swept h := by cases h
  closed h := by cases h

end Sound

lemma World.Run.sound (run : World.Run g past w) : Sound past w := by
  induction run with
  | start => exact .initial g
  | step _ step ih => exact ih.step step

end NestedTx.Registration
