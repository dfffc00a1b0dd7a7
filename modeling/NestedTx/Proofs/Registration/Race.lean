import NestedTx.Proofs.Registration.Sound

/-!
# Races for a name

Between the look at a name and the claim of it anything can happen to the registry. The claim is
what decides: it puts a pool into the registry or has the pool closed. Until then nobody else has
the pool, so whatever the others do, it ends in exactly one of the two ways.
-/

namespace NestedTx.Registration

variable {w w' : World} {past : List World} {action : World.Action} {g : Registry ResourceId}
  {name : String} {r : ResourceId} {h : Holdings}

/-! ### How a registration ends -/

namespace Sound

/-- An entry of the registry stays until its name is taken out or everything is. -/
lemma get?_step (sound : Sound past w) (step : w.Step action w')
    (listed : w.registry.get? name = some r) :
    w'.registry.get? name = some r ∨
      w'.registry.get? name = none ∧
        (action = .unregister name ∨ ∃ i, action = .sweeping i .drain) := by
  -- only a claim and a registration insert, and neither of them replaces what is listed
  cases step with
  | attempt among ask replies =>
    obtain ⟨_, _, -, -, next⟩ := sound.next among ask replies
    cases next with
    | won => exact .inl (Registry.get?_claim_iff.2 (.inl listed))
    | _ => exact .inl listed
  | @sweeping i _ _ _ _ among replies =>
    obtain ⟨rfl, rfl, -⟩ | ⟨_, -, -, rfl, -⟩ := sound.sweep_next among replies
    · exact .inr ⟨rfl, .inr ⟨i, rfl⟩⟩
    · exact .inl listed
  | register name' =>
    refine .inl ?_
    rw [Registry.register_eq]
    exact Registry.get?_claim_iff.2 (.inl listed)
  | unregister name' =>
    rw [Registry.get?_unregister]
    by_cases same : name = name'
    · exact .inr ⟨if_pos same, .inl (same ▸ rfl)⟩
    · exact .inl ((if_neg same).trans listed)
  | _ => exact .inl listed

/-- A private pool that was closed was closed by its registration, which has returned. -/
lemma not_closed (sound : Sound past w) {i : Nat} {a : Attempt} (ha : w.attempts[i]? = some a)
    (connected : a.Connected r) (notInserted : ¬ a.Inserted r) (running : a.result? = none) :
    r ∉ w.closed := by
  intro closed
  obtain isPublic | ⟨b, hb, v, lost⟩ := sound.closed closed
  · exact isPublic.2 ⟨a, List.mem_of_getElem? ha, connected, notInserted⟩
  · obtain ⟨j, hb⟩ := List.mem_iff_getElem?.1 hb
    cases sound.apart ha hb connected (lost.connected_iff.2 rfl)
    cases ha.symm.trans hb
    rw [lost.result?] at running
    cases running

/-- A registration that has connected returns with its pool registered and open, or with its pool
closed and never registered. -/
lemma returns (sound : Sound past w) (step : w.Step action w') {i : Nat} {a : Attempt}
    {result : DbResult ConnectionInfo} (returns : w.Returns w' i a result)
    (connected : a.Connected r) :
    ((∃ v, result = .ok ⟨a.config.id, a.config.kind, v⟩) ∧
        w'.registry.get? a.config.id = some r ∧ r ∉ w'.closed) ∨
      result = .error (.nameConflict a.config.id) ∧ r ∈ w'.closed ∧
        ∀ v ∈ past ++ [w, w'], ∀ name, v.registry.get? name ≠ some r := by
  obtain ⟨⟨a₀, ha₀, running⟩, ha, returned⟩ := returns
  have sound' := sound.step step
  -- an attempt that returns in this step was running and made this very call
  obtain same | new | ⟨b, call, reply, k, hb, -, ask, replies, rfl⟩ := step.attempts ha
  · cases ha₀.symm.trans same
    cases running.symm.trans returned
  · rw [new] at connected
    cases connected
  · cases ha₀.symm.trans hb
    obtain ⟨s, s', before, after, next⟩ := sound.next hb ask replies
    have pool := after.connected_iff.1 connected
    have result := after.result?.symm.trans returned
    generalize w'.toHoldings = h at next ⊢
    -- only a granted claim and the closing of a lost pool return with a pool
    cases next with
    | won r' v free =>
      cases pool
      cases result
      refine .inl ⟨⟨_, rfl⟩, ?_, ?_⟩
      · exact Registry.get?_claim_iff.2 (.inr ⟨free, rfl, rfl⟩)
      -- until the claim is granted, the pool is known to this attempt alone
      · refine sound.not_closed hb (before.connected_iff.2 rfl) ?_ running
        intro inserted
        obtain ⟨_, inserted⟩ := before.inserted_iff.1 inserted
        cases inserted
    | closed r' v =>
      cases pool
      cases result
      refine .inr ⟨rfl, List.mem_cons_self, ?_⟩
      intro v' hv' name' listed
      apply (sound'.listed (by simpa using hv') listed).2
      refine ⟨_, List.mem_of_getElem? ha, connected, ?_⟩
      intro inserted
      obtain ⟨_, inserted⟩ := after.inserted_iff.1 inserted
      cases inserted
    | taken | notConnected => cases pool
    | free | connected | version | beaten => cases result

end Sound

/-! ### How a name is won -/

/-- A name has one winner if it is taken, and none if it is free. It is taken if somebody was beaten
to it. -/
structure Settled (name : String) (w : World) : Prop where
  count : w.winners name = if w.registry.contains name then 1 else 0
  beaten : ∀ {a : Attempt} {r}, a ∈ w.attempts → ⟨.claim name r, false⟩ ∈ a.made →
    w.registry.contains name = true

lemma World.winners_set {i : Nat} {a b : Attempt} (ha : w.attempts[i]? = some a)
    (running : a.result? = none) :
    ({ w with toHoldings := h, attempts := w.attempts.set i b } : World).winners name
      = w.winners name + if b.wins name then 1 else 0 := by
  obtain ⟨hi, rfl⟩ := List.getElem?_eq_some_iff.1 ha
  have notWon : (w.attempts[i]).wins name = false := by simp [Attempt.wins, running]
  rw [winners, winners, List.countP_set hi, notWon]
  exact Nat.add_right_comm _ _ _

namespace Settled

lemma beaten_step (settled : Settled name w) (step : w.Step action w')
    (kept : w.registry.contains name = true → w'.registry.contains name = true) {b : Attempt}
    (hb : b ∈ w'.attempts) (beaten : ⟨.claim name r, false⟩ ∈ b.made) :
    w'.registry.contains name = true := by
  obtain ⟨i, hb⟩ := List.mem_iff_getElem?.1 hb
  obtain hb | new | ⟨a, call, reply, k, ha, -, -, replies, rfl⟩ := step.attempts hb
  · exact kept (settled.beaten (List.mem_of_getElem? hb) beaten)
  · rw [new] at beaten
    cases beaten
  · obtain beaten | beaten := List.mem_append.1 beaten
    · exact kept (settled.beaten (List.mem_of_getElem? ha) beaten)
    · rw [← List.mem_singleton.1 beaten] at replies
      exact kept replies.beaten

lemma count_step (sound : Sound past w) (settled : Settled name w) (step : w.Step action w')
    (kept : w.registry.contains name = true → w'.registry.contains name = true) :
    w'.winners name = if w'.registry.contains name then 1 else 0 := by
  -- most steps neither settle an attempt nor free or take the name
  have same (back : w'.registry.contains name = true → w.registry.contains name = true)
      (winners : w'.winners name = w.winners name) :
      w'.winners name = if w'.registry.contains name then 1 else 0 := by
    rw [winners, settled.count, Bool.eq_iff_iff.2 ⟨kept, back⟩]
  cases step with
  | start config =>
    have checking : Attempt.At ⟨config, [], registerDatabase config⟩ .checking := ⟨rfl, rfl⟩
    refine same id ?_
    rw [World.winners, World.winners, List.countP_append]
    simp [Attempt.wins, checking.result?, Stage.result?]
  | @attempt i a call reply k h among ask replies =>
    have running : a.result? = none := by rw [Attempt.result?, ask]
    obtain ⟨s, s', -, after, next⟩ := sound.next among ask replies
    have result := after.result?
    -- the attempt was running, so it was no winner before and may be one now
    rw [World.winners_set among running, settled.count, Attempt.wins, result]
    cases next with
    | won r v free =>
      rw [Registry.contains_claim]
      by_cases same : name = a.config.id
      · subst same
        simp [free, Stage.result?, Except.isOk, Except.toBool]
      · simp [same, Ne.symm same]
    | _ => simp [Stage.result?, Except.isOk, Except.toBool]
  | sweeping among replies =>
    obtain ⟨rfl, rfl, -⟩ | ⟨_, -, -, rfl, -⟩ := sound.sweep_next among replies
    · exact same (fun h => by cases h) rfl
    · exact same id rfl
  | @register name' r' =>
    rw [World.winners, List.countP_append, ← Nat.add_assoc]
    change w.winners name + _ = _
    rw [settled.count, Registry.register_eq, Registry.contains_claim]
    by_cases same : name = name'
    · subst same
      cases taken : w.registry.contains name <;> simp [Except.isOk, Except.toBool]
    · simp [same, Ne.symm same]
  | unregister name' =>
    refine same ?_ rfl
    intro taken
    obtain ⟨r, listed⟩ := Registry.contains_iff.1 taken
    rw [Registry.get?_unregister] at listed
    split at listed
    · cases listed
    · exact Registry.contains_iff.2 ⟨r, listed⟩
  | _ => exact same id rfl

end Settled

lemma World.Run.settled (run : Run g past w) (free : g.contains name = false)
    (permanent : Permanent name (past ++ [w])) : Settled name w := by
  induction run with
  | start =>
    refine ⟨?_, fun ha => by cases ha⟩
    change 0 = if g.contains name then 1 else 0
    rw [free]
    rfl
  | step run step ih =>
    obtain ⟨before, -, last⟩ := List.pairwise_append.1 permanent
    have kept := last _ (List.mem_append_right _ (List.mem_singleton_self _)) _
      (List.mem_singleton_self _)
    have settled := ih before
    exact ⟨settled.count_step run.sound step kept, settled.beaten_step step kept⟩

/-- Registrations race safely with each other and with whatever else is done to the registry. No
entry is overwritten; each pool that was connected is registered or closed when its registration
returns; a name that is taken opens no pool, and a failed connection claims no name; and a name that
is free at first and never removed has at most one winner, and one for sure if somebody connected
for it and all have returned. -/
theorem races_safely (run : World.Run g past w) :
    (∀ {action w'}, w.Step action w' → ∀ {name r}, w.registry.get? name = some r →
      w'.registry.get? name = some r ∨ w'.registry.get? name = none ∧
        (action = .unregister name ∨ ∃ i, action = .sweeping i .drain)) ∧
    (∀ {action w'}, w.Step action w' → ∀ {i a result r}, w.Returns w' i a result →
      a.Connected r →
      ((∃ v, result = .ok ⟨a.config.id, a.config.kind, v⟩) ∧
          w'.registry.get? a.config.id = some r ∧ r ∉ w'.closed) ∨
        result = .error (.nameConflict a.config.id) ∧ r ∈ w'.closed ∧
          ∀ v ∈ past ++ [w, w'], ∀ name, v.registry.get? name ≠ some r) ∧
    (∀ a ∈ w.attempts, ⟨.contains a.config.id, true⟩ ∈ a.made →
      a.made = [⟨.contains a.config.id, true⟩] ∧
        a.result? = some (.error (.nameConflict a.config.id))) ∧
    (∀ a ∈ w.attempts, ∀ e, ⟨.connect a.config, .error e⟩ ∈ a.made →
      (∀ name r granted, ⟨.claim name r, granted⟩ ∉ a.made) ∧ a.result? = some (.error e)) ∧
    ∀ name, g.contains name = false → World.Permanent name (past ++ [w]) →
      w.winners name ≤ 1 ∧
        ((∃ a ∈ w.attempts, a.config.id = name ∧ ∃ r, a.Connected r) →
          (∀ a ∈ w.attempts, a.config.id = name → a.result?.isSome) → w.winners name = 1) := by
  have sound := run.sound
  refine ⟨fun step => sound.get?_step step, fun step => sound.returns step, ?_, ?_, ?_⟩
  · intro a ha taken
    obtain ⟨s, hs⟩ := sound.staged ha
    exact hs.of_taken taken
  · intro a ha e failed
    obtain ⟨s, hs⟩ := sound.staged ha
    exact hs.of_notConnected failed
  · intro name free permanent
    have settled := run.settled free permanent
    constructor
    · rw [settled.count]
      split <;> simp
    · rintro ⟨a, ha, rfl, r, connected⟩ all
      obtain ⟨s, hs⟩ := sound.staged ha
      have taken : w.registry.contains a.config.id = true := by
        -- a winner took the name itself, and a beaten attempt found it taken
        obtain won | beaten := hs.won_or_beaten connected (all a ha rfl)
        · by_contra free
          have none : w.winners a.config.id = 0 := settled.count.trans (if_neg free)
          have pos := List.countP_pos_iff.2 ⟨a, ha, won⟩
          exact absurd (Nat.le_add_right _ _) (Nat.not_le.2 (none ▸ pos))
        · exact settled.beaten ha beaten
      exact settled.count.trans (if_pos taken)

/-- Two registrations find a name free and connect; the second is the first to claim it. -/
theorem races_safely_rivals :
    ∃ (past : List World) (w : World), World.Run .empty past w ∧
      w.attempts.map Attempt.result?
        = [some (.error (.nameConflict "main")), some (.ok ⟨"main", .sqlite, none⟩)] ∧
      w.closed = [⟨7⟩] ∧ w.registry.get? "main" = some ⟨8⟩ ∧ w.winners "main" = 1 := by
  have run : World.Run .empty [] _ := .start
  have run := run.step (.start ⟨"main", .sqlite, "sqlite::memory:", .unset, none⟩)
  have run := run.step (.start ⟨"main", .sqlite, "sqlite::memory:", .unset, none⟩)
  have run := run.step (@World.Step.attempt _ 0 _ _ _ _ _ rfl rfl (.contains "main"))
  have run := run.step (@World.Step.attempt _ 1 _ _ _ _ _ rfl rfl (.contains "main"))
  have run := run.step (@World.Step.attempt _ 0 _ _ _ _ _ rfl rfl
    (@Replies.connected _ _ ⟨7⟩ (by decide)))
  have run := run.step (@World.Step.attempt _ 1 _ _ _ _ _ rfl rfl
    (@Replies.connected _ _ ⟨8⟩ (by decide)))
  have run := run.step (@World.Step.attempt _ 0 _ _ _ _ _ rfl rfl (.version ⟨7⟩ none))
  have run := run.step (@World.Step.attempt _ 1 _ _ _ _ _ rfl rfl (.version ⟨8⟩ none))
  have run := run.step (@World.Step.attempt _ 1 _ _ _ _ _ rfl rfl (.claim "main" ⟨8⟩))
  have run := run.step (@World.Step.attempt _ 0 _ _ _ _ _ rfl rfl (.claim "main" ⟨7⟩))
  have run := run.step (@World.Step.attempt _ 0 _ _ _ _ _ rfl rfl (.closed ⟨7⟩))
  obtain ⟨-, -, -, -, names⟩ := races_safely run
  obtain ⟨-, winner⟩ := names "main" rfl (by rw [World.Permanent]; decide)
  refine ⟨_, _, run, rfl, rfl, rfl, winner ?_ ?_⟩
  · exact ⟨_, List.mem_cons_self, rfl, ⟨7⟩, List.mem_cons_of_mem _ List.mem_cons_self⟩
  · intro a ha _
    obtain rfl | ha := List.mem_cons.1 ha
    · rfl
    · cases List.mem_singleton.1 ha
      rfl

end NestedTx.Registration
