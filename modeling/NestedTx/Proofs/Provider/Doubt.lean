import NestedTx.Proofs.Provider.Nesting
import NestedTx.Proofs.Server.Session

/-!
# Savepoint calls in doubt

A call about a savepoint may report a failure although it was carried out, as when its reply comes
too late. The provider then stays at its depth. If the call went back to an outer level, the
savepoints of the levels above are gone from the backend while the provider still has those levels
open. Going back to one of them later finds no savepoint, or a stale one that an earlier unit has
left under the same name, and that undoes work older than the level.

This is the only way in which a level loses its savepoint, and while a level has its savepoint,
going back to it restores just what was there when it was entered.
-/

namespace NestedTx

open Dialogue

variable {δ : Type} {id : String} {levels outer : List (Copy δ)} {entry : Copy δ}
  {l l' : List (String × δ)} {k : Nat}

/-! ### Levels that have their savepoint -/

/-- The snapshots that there are right after a level was entered, its own one first. -/
def Copy.marked (id : String) (k : Nat) (entry : Copy δ) : List (String × δ) :=
  (Savepoint.name id k, entry.data) :: entry.snapshots

lemma Standing.marked_suffix (h : Standing .shadow id levels l) (h1 : 1 ≤ k)
    (hk : k ≤ levels.length) (he : levels.drop (levels.length - k) = entry :: outer) :
    entry.marked id k <:+ l ∧ Standing .shadow id outer entry.snapshots := by
  obtain ⟨e, o, older, hd, -, hs, hb, hr⟩ := h.dropWhile_name h1 hk
  rw [hd] at he
  cases he
  obtain rfl := hb rfl
  refine ⟨?_, hr⟩
  rw [Copy.marked, ← hs]
  exact List.dropWhile_suffix _

/-- The snapshots of a level are within those that a deeper level found. -/
lemma Standing.marked_suffix_of_lt {j : Nat} {deeper : Copy δ} {below : List (Copy δ)}
    (h : Standing .shadow id levels l) (h1 : 1 ≤ k) (hk : k < j) (hj : j ≤ levels.length)
    (he : levels.drop (levels.length - k) = entry :: outer)
    (hd : levels.drop (levels.length - j) = deeper :: below) :
    entry.marked id k <:+ deeper.snapshots := by
  -- below the deeper level are just the levels before it, the outer one among them
  have length_below : below.length + 1 = j := by
    have := congrArg List.length hd
    rw [List.length_drop, List.length_cons] at this
    omega
  obtain ⟨-, inner⟩ := h.marked_suffix (h1.trans hk.le) hj hd
  have he' : below.drop (below.length - k) = entry :: outer := by
    have below_eq : below = levels.drop (levels.length - j + 1) := by
      rw [← List.drop_drop, hd, List.drop_one, List.tail_cons]
    rw [← he, below_eq, List.drop_drop]
    congr 1
    rw [List.length_drop]
    omega
  exact (inner.marked_suffix h1 (by omega) he').1

lemma Standing.marked_suffix_marked_iff {j : Nat} {other : Copy δ} {below : List (Copy δ)}
    (h : Standing .shadow id levels l) (hk1 : 1 ≤ k) (hk : k ≤ levels.length) (hj1 : 1 ≤ j)
    (hj : j ≤ levels.length) (he : levels.drop (levels.length - k) = entry :: outer)
    (ho : levels.drop (levels.length - j) = other :: below) :
    entry.marked id k <:+ other.marked id j ↔ k ≤ j := by
  constructor
  · intro within
    -- otherwise each of the two would be shorter than the other
    by_contra hlt
    have deeper := h.marked_suffix_of_lt hj1 (Nat.not_le.1 hlt) hk ho he
    exact absurd (within.length_le.trans deeper.length_le) (Nat.not_succ_le_self _)
  · intro hle
    cases Nat.lt_or_eq_of_le hle with
    | inl lt => exact (h.marked_suffix_of_lt hk1 lt hj he ho).trans (List.suffix_cons _ _)
    | inr eq =>
      subst eq
      rw [ho] at he
      cases he
      exact List.suffix_rfl

/-! ### Levels that may have lost their savepoint -/

/-- Under the name of a level the snapshots hold only its own one and older ones. -/
inductive Traced (id : String) : List (Copy δ) → List (String × δ) → Prop
  | outermost (l : List (String × δ)) : Traced id [] l
  | level {entry : Copy δ} {outer : List (Copy δ)} {newer older : List (String × δ)}
      (other : ∀ x ∈ newer, x.1 ≠ Savepoint.name id (outer.length + 1))
      (own : older <:+ entry.marked id (outer.length + 1))
      (rest : Traced id outer (newer ++ older)) : Traced id (entry :: outer) (newer ++ older)

namespace Traced

lemma innermost (own : l <:+ entry.marked id (outer.length + 1)) (rest : Traced id outer l) :
    Traced id (entry :: outer) l := by
  have level := Traced.level (List.forall_mem_nil _) own rest
  exact level

/-- A snapshot for a deeper level makes no difference. -/
lemma push (h : Traced id levels l) {n : Nat} (hn : levels.length < n) (d : δ) :
    Traced id levels ((Savepoint.name id n, d) :: l) := by
  induction h with
  | outermost l => exact .outermost _
  | @level entry outer newer older other own rest ih =>
    have hn' : outer.length + 1 < n := hn
    rw [← List.cons_append]
    refine .level (List.forall_mem_cons.2 ⟨fun he => ?_, other⟩) own (ih (by omega))
    exact absurd (Savepoint.name_injective id he) hn'.ne'

/-- Going back to any snapshot makes no difference. -/
lemma of_suffix (h : Traced id levels l) (hl : l' <:+ l) : Traced id levels l' := by
  induction h with
  | outermost l => exact .outermost _
  | @level entry outer newer older other own rest ih =>
    -- what is left begins behind the newer snapshots of the level, or still among them
    cases List.suffix_or_suffix_of_suffix hl (List.suffix_append newer older) with
    | inl within => exact .innermost (within.trans own) (ih hl)
    | inr past =>
      obtain ⟨kept, rfl⟩ := past
      obtain ⟨dropped, hd⟩ := hl
      rw [← List.append_assoc] at hd
      obtain rfl := List.append_cancel_right hd
      refine .level (fun x hx => ?_) own (ih (by simp))
      exact other x (List.mem_append_right _ hx)

lemma drop (h : Traced id levels l) (n : Nat) : Traced id (levels.drop n) l := by
  induction n generalizing levels with
  | zero => exact h
  | succ n ih =>
    cases h with
    | outermost l => exact .outermost _
    | level other own rest => exact ih rest

/-- A rollback to a level goes back to its own snapshot or to an older one. -/
lemma dropWhile_name (h : Traced id (entry :: outer) l) :
    l.dropWhile (·.1 != Savepoint.name id (outer.length + 1)) <:+
      entry.marked id (outer.length + 1) := by
  cases h with
  | level other own rest =>
    rw [List.dropWhile_append_of_pos fun x hx => bne_iff_ne.2 (other x hx)]
    exact (List.dropWhile_suffix _).trans own

/-- A rollback to a level goes back to its own snapshot as long as that is there. -/
lemma dropWhile_eq (h : Traced id (entry :: outer) l)
    (own : entry.marked id (outer.length + 1) <:+ l) :
    l.dropWhile (·.1 != Savepoint.name id (outer.length + 1))
      = entry.marked id (outer.length + 1) := by
  cases h with
  | @level _ _ newer older other within rest =>
    rw [List.dropWhile_append_of_pos fun x hx => bne_iff_ne.2 (other x hx)]
    -- the older snapshots are the marked ones less some of the newest, and none is missing
    obtain ⟨lost, hlost⟩ := within
    cases lost with
    | nil =>
      rw [List.nil_append] at hlost
      simp [hlost, Copy.marked]
    | cons x lost =>
      -- its own snapshot would be among the newer ones, which have other names
      obtain ⟨before, hb⟩ := own
      rw [← hlost, ← List.append_assoc] at hb
      obtain rfl := List.append_cancel_right hb
      obtain ⟨rfl, -⟩ := List.cons.inj hlost
      exact absurd rfl (other _ (List.mem_append_right _ List.mem_cons_self))

lemma kept : Provider.Kept .shadow id (Traced (δ := δ) id) where
  outermost := .outermost _
  enter h := .innermost List.suffix_rfl (h.push (Nat.lt_succ_self _) _)
  leave h := by
    cases h with
    | level other own rest => exact rest
  back h _ _ hc := by
    rw [(Copy.snapshots_of_rollbackTo? hc).1]
    exact (h.drop _).of_suffix (List.dropWhile_suffix _)

lemma tolerant : Provider.Tolerant id (Traced (δ := δ) id) := by
  intro levels c c' k h hc
  rw [(Copy.snapshots_of_rollbackTo? hc).1]
  exact h.of_suffix (List.dropWhile_suffix _)

/-- What a rollback to a level restores: its own data as long as its snapshot is there, and
otherwise those of a stale snapshot of its name, which was there before the level was entered. -/
lemma restored {c c' : Copy δ} (h : Traced id (entry :: outer) c.snapshots)
    (hc : c.rollbackTo? (Savepoint.name id (outer.length + 1)) = some c') :
    (entry.marked id (outer.length + 1) <:+ c.snapshots → c'.data = entry.data) ∧
      (¬ entry.marked id (outer.length + 1) <:+ c.snapshots →
        (Savepoint.name id (outer.length + 1), c'.data) ∈ entry.snapshots) := by
  obtain ⟨hs, older, hd⟩ := Copy.snapshots_of_rollbackTo? hc
  constructor
  · intro own
    rw [hd, h.dropWhile_eq own] at hs
    exact congrArg Prod.snd (List.cons.inj hs).1
  · intro lost
    have within := h.dropWhile_name
    rw [← hs] at within
    obtain own | stale := List.suffix_cons_iff.1 within
    · refine absurd ?_ lost
      rw [Copy.marked, ← own, hs]
      exact List.dropWhile_suffix _
    · refine stale.subset ?_
      rw [hd]
      exact List.mem_cons_self

end Traced

namespace Provider

variable {p q : Provider} {s s' : Stored δ} {policy : NameReuse} {doubt : Call → Prop}
  {effects : Effects δ} {holds : List (Copy δ) → List (String × δ) → Prop} {op : Operation}
  {calls : List CallExchange} {a : Answer}

/-- Has the turn gone back to a level that was open? -/
def Turn.Restores {σ : Type} (u : Turn σ) (level : Nat) : Prop :=
  u.answer = .done (.ok ()) ∧ 1 ≤ level ∧ level ≤ u.provider.depth ∧
    (u.operation = .rollback ∧ level = u.provider.depth ∨ u.operation = .rollbackTo level)

lemma Nested.restored (nested : Nested holds p s levels) (move : p.Move op calls a q)
    (path : Path (Stored.Step policy doubt effects) s calls s')
    (h : Turn.Restores ⟨p, s, op, calls, a, q, s'⟩ k) :
    ∃ c', (p.copyIn s).rollbackTo? (p.savepointName k) = some c' ∧
      holds levels (p.copyIn s).snapshots ∧ s'.dataAt? q.route = some c'.data := by
  obtain ⟨ok, h1, hk, which⟩ := h
  -- of all operations only a rollback and a return to a level go back to an open one
  cases move with
  | refused h => cases op <;> cases ok
  | failed h hx => cases op <;> cases ok
  | left h hn => simp at which
  | committed h h0 => simp at which
  | rolledBack h h0 =>
    rw [h0] at hk
    exact absurd (h1.trans hk) (Nat.not_succ_le_zero 0)
  | @passed t level h hl =>
    obtain rfl : level = k := by simpa using which
    exact absurd hl hk.not_gt
  | @undone t n h hn =>
    have step := path_singleton_iff.1 path
    obtain rfl : k = n + 1 := by simpa [hn] using which
    obtain ⟨c, c', hc, hl, related, hc', rfl⟩ := nested.exists_rollbackTo h step
    rw [copyIn_of_inside h hc]
    refine ⟨c', hc', related, ?_⟩
    simp [route, h, Stored.dataAt?]
  | @returned t level h h1 hle =>
    have step := path_singleton_iff.1 path
    obtain rfl : level = k := by simpa using which
    obtain ⟨c, c', hc, hl, related, hc', rfl⟩ := nested.exists_rollbackTo h step
    rw [copyIn_of_inside h hc]
    refine ⟨c', hc', related, ?_⟩
    simp [route, h, Stored.dataAt?]
  | _ => cases ok

/-- A slip leaves just the snapshots that there were when the level was entered. -/
lemma Nested.slipped (nested : Nested (Standing .shadow p.id) p s levels)
    (move : p.Move op calls a q) (path : Path (Stored.Step .shadow doubt effects) s calls s')
    (h : Turn.SlippedTo ⟨p, s, op, calls, a, q, s'⟩ k) :
    q = p ∧ Turn.levels ⟨p, s, op, calls, a, q, s'⟩ levels = levels ∧
      Standing .shadow p.id levels (p.copyIn s).snapshots ∧ 1 ≤ k ∧ k ≤ levels.length ∧
      ∃ entry outer, levels.drop (levels.length - k) = entry :: outer ∧
        (q.copyIn s').snapshots = entry.marked p.id k := by
  obtain ⟨hop, ⟨e, ha⟩, hk, changed⟩ := h
  cases move with
  | refused h => exact absurd (path_nil_iff.1 path) changed
  | @failed _ x wrap e h hx =>
    have step := path_singleton_iff.1 path
    -- the call failed but changed the backend, so it must have been carried out
    have carried :=
      ((Stored.step_error step hx (control?_isStatement h)).resolve_left changed).2
    cases hop
    obtain ⟨t, ht, h1, hle, hx1⟩ := control?_rollbackTo h
    obtain ⟨c, hc, hl, standing⟩ := nested.exists_copy ht
    simp only [hx1, Stored.carryOut?, hc, Option.bind_some, Option.map_eq_some_iff] at carried
    obtain ⟨c', hc', rfl⟩ := carried
    rw [← hl] at hle
    obtain ⟨entry, outer, older, hd, -, found, before, -⟩ := standing.rollbackTo? h1 hle
    rw [savepointName, found] at hc'
    cases hc'
    refine ⟨rfl, rfl, ?_, h1, hle, entry, outer, hd, ?_⟩
    · rw [copyIn_of_inside ht hc]
      exact standing
    · rw [copyIn_of_inside ht (Stored.copies_put_self ..), before rfl]
      rfl
  | passed => cases ha
  | returned => cases ha
  | _ => cases hop

variable {id : String} {r : ResourceId} {history : List (Turn (Stored δ))}

/-- Is the snapshot of a level still in the copy, on top of those that were there before it? -/
def Keeps (id : String) (k : Nat) (entry c : Copy δ) : Prop :=
  entry.marked id k <:+ c.snapshots

/-- As long as nothing slips, the snapshots of all open levels are kept. -/
lemma Run.keeps {s₀ : Stored δ}
    (run : Run (Stored.Step .shadow doubt effects) (Provider.new id r) s₀ history p s)
    (hd : ∀ c, doubt c → c.isSavepoint = true) (still : ∀ v ∈ history, ∀ level, ¬ v.SlippedTo level)
    (h1 : 1 ≤ k) (hk : k ≤ (openLevels history).length)
    (he : (openLevels history).drop ((openLevels history).length - k) = entry :: outer) :
    Keeps id k entry (p.copyIn s) := by
  have nested := run.nested Standing.kept hd (.inr still)
  exact ((nested.related_copyIn (.outermost _)).marked_suffix h1 hk he).1

/-- After a slip the snapshots of the levels up to the outer one are kept, and no others. -/
lemma Run.keeps_iff {s₀ : Stored δ} {v : Turn (Stored δ)} {level : Nat}
    (run : Run (Stored.Step .shadow doubt effects) (Provider.new id r) s₀ (history ++ [v]) p s)
    (hd : ∀ c, doubt c → c.isSavepoint = true) (still : ∀ v ∈ history, ∀ level, ¬ v.SlippedTo level)
    (slip : v.SlippedTo level) (h1 : 1 ≤ k) (hk : k ≤ (openLevels (history ++ [v])).length)
    (he : (openLevels (history ++ [v])).drop ((openLevels (history ++ [v])).length - k)
      = entry :: outer) :
    Keeps id k entry (p.copyIn s) ↔ k ≤ level := by
  obtain ⟨before, move, path, rfl, rfl⟩ := run.of_concat
  obtain rfl : v.provider.id = id := before.id_eq
  have nested := before.nested Standing.kept hd (.inr still)
  obtain ⟨-, levels_eq, standing, hl1, hl, other, below, ho, left⟩ := nested.slipped move path slip
  rw [openLevels_append] at hk he
  rw [Keeps, left]
  rw [show v.levels (openLevels history) = openLevels history from levels_eq] at hk he
  exact standing.marked_suffix_marked_iff h1 hk hl1 hl he ho

/-- What a rollback to an open level restores when a call about a savepoint may be carried out
although it is reported as failed. While the snapshot of the level is kept, the data are those with
which the level was entered; otherwise they are those of a stale snapshot from before. The snapshots
of all open levels are kept until a return to an outer level slips, and right after that those of
the levels up to the outer one are. -/
theorem rollback_restores (B : Backend δ .shadow fun c => c.isSavepoint = true)
    {s₀ s : B.State} {history : List (Turn B.State)} {u : Turn B.State}
    (run : Run B.Step (Provider.new id r) s₀ (history ++ [u]) p s) (h : u.Restores k) :
    ∃ entry d, entryAt? (openLevels (history.map (Turn.map B.stored))) k = some entry ∧
      (B.stored s).dataAt? p.route = some d ∧
      (Keeps id k entry (u.provider.copyIn (B.stored u.state)) → d = entry.data) ∧
      (¬ Keeps id k entry (u.provider.copyIn (B.stored u.state)) →
        (Savepoint.name id k, d) ∈ entry.snapshots) ∧
      ((∀ v ∈ history, ∀ level, ¬ (v.map B.stored).SlippedTo level) →
        Keeps id k entry (u.provider.copyIn (B.stored u.state))) ∧
      ∀ earlier v level, history = earlier ++ [v] → (v.map B.stored).SlippedTo level →
        (∀ w ∈ earlier, ∀ level, ¬ (w.map B.stored).SlippedTo level) →
        (Keeps id k entry (u.provider.copyIn (B.stored u.state)) ↔ k ≤ level) := by
  have seen := run.map B.stored B.sound
  rw [List.map_append, List.map_singleton] at seen
  obtain ⟨before, move, path, rfl, hs⟩ := seen.of_concat
  rw [hs]
  have doubt : ∀ c : Call, c.isSavepoint = true → c.isSavepoint = true := fun _ hc => hc
  -- the levels are traced through any slips, which the relation tolerates
  have traced := before.nested Traced.kept doubt (.inl Traced.tolerant)
  have hid : (u.map B.stored).provider.id = id := before.id_eq
  have hk : k ≤ (openLevels (history.map (Turn.map B.stored))).length := by
    rw [traced.length_eq]
    exact h.2.2.1
  obtain ⟨c', found, related, data⟩ := traced.restored move path h
  obtain ⟨entry, outer, hd, rfl, he⟩ := exists_entryAt? h.2.1 hk
  have related := hd ▸ related.drop _
  rw [savepointName, hid] at found
  obtain ⟨own, stale⟩ := related.restored found
  refine ⟨entry, c'.data, he, data, own, stale, ?_, ?_⟩
  · intro still
    exact before.keeps doubt (List.forall_mem_map.2 still) h.2.1 hk hd
  · rintro earlier v level rfl slip still
    rw [List.map_append, List.map_singleton] at before hk hd
    exact before.keeps_iff doubt (List.forall_mem_map.2 still) slip h.2.1 hk hd

/-- A unit of work rolled back while everything goes well. -/
theorem rollback_restores_entered :
    ∃ (history : List (Turn (Stored (List Nat)))) (u : Turn (Stored (List Nat))) (p : Provider)
      (s : Stored (List Nat)),
      Run (Backend.free .shadow (·.isSavepoint = true) Connection.counting.effects).Step
        (Provider.new "prv_1" ⟨0⟩) ⟨[], fun _ => none⟩ (history ++ [u]) p s ∧
      u.Restores 1 ∧
      ∃ entry d, entryAt? (openLevels (history.map (Turn.map fun s => s))) 1 = some entry ∧
        s.dataAt? p.route = some d ∧ entry.data = [0] ∧ d = [0] := by
  have run : Run (Backend.free .shadow (·.isSavepoint = true) Connection.counting.effects).Step
      (Provider.new "prv_1" ⟨0⟩) ⟨[], fun _ => none⟩ [] _ _ := .start
  have run := run.turn (@Move.begun _ 0 ⟨7⟩ rfl).course
    (path_singleton_iff.2 (.begun rfl))
  have run := run.turn (Move.executed ⟨"", []⟩ (.ok ⟨1, none⟩)).course
    (path_singleton_iff.2 (.executed rfl rfl))
  have run := run.turn (@Move.entered _ 1 ⟨7⟩ rfl).course
    (path_singleton_iff.2 (.carried rfl rfl))
  have run := run.turn (Move.executed ⟨"", []⟩ (.ok ⟨1, none⟩)).course
    (path_singleton_iff.2 (.executed rfl rfl))
  have run := run.turn (Move.undone (t := ⟨7⟩) (n := 0) rfl rfl).course
    (path_singleton_iff.2 (.carried rfl rfl))
  obtain ⟨entry, d, he, hd, own, -, kept, -⟩ :=
    rollback_restores _ run ⟨rfl, le_rfl, le_rfl, .inl ⟨rfl, rfl⟩⟩
  have keeps := kept (by simp [Turn.map, Turn.SlippedTo])
  cases he
  exact ⟨_, _, _, _, run, ⟨rfl, le_rfl, le_rfl, .inl ⟨rfl, rfl⟩⟩, _, d, rfl, hd, rfl, own keeps⟩

/-- Level 2 was entered and left once, before the one row was put in. After a slip back to level 1,
rolling back level 2 finds that stale savepoint, and the row is gone. -/
theorem rollback_undoes_older_work :
    ∃ (history : List (Turn (Stored (List Nat)))) (u : Turn (Stored (List Nat))) (p : Provider)
      (s : Stored (List Nat)) (entry : Copy (List Nat)),
      Run (Backend.free .shadow (·.isSavepoint = true) Connection.counting.effects).Step
        (Provider.new "prv_1" ⟨0⟩) ⟨[], fun _ => none⟩ (history ++ [u]) p s ∧
      u.Restores 2 ∧ entryAt? (openLevels history) 2 = some entry ∧ entry.data = [0] ∧
      s.dataAt? p.route = some [] := by
  have run : Run (Backend.free .shadow (·.isSavepoint = true) Connection.counting.effects).Step
      (Provider.new "prv_1" ⟨0⟩) ⟨[], fun _ => none⟩ [] _ _ := .start
  have run := run.turn (@Move.begun _ 0 ⟨7⟩ rfl).course
    (path_singleton_iff.2 (.begun rfl))
  have run := run.turn (@Move.entered _ 1 ⟨7⟩ rfl).course
    (path_singleton_iff.2 (.carried rfl rfl))
  have run := run.turn (@Move.entered _ 2 ⟨7⟩ rfl).course
    (path_singleton_iff.2 (.carried rfl rfl))
  have run := run.turn (Move.left (t := ⟨7⟩) (n := 1) rfl rfl).course (.nil _)
  have run := run.turn (Move.left (t := ⟨7⟩) (n := 0) rfl rfl).course (.nil _)
  have run := run.turn (Move.executed ⟨"", []⟩ (.ok ⟨1, none⟩)).course
    (path_singleton_iff.2 (.executed rfl rfl))
  have run := run.turn (@Move.entered _ 3 ⟨7⟩ rfl).course
    (path_singleton_iff.2 (.carried rfl rfl))
  have run := run.turn (@Move.entered _ 4 ⟨7⟩ rfl).course
    (path_singleton_iff.2 (.carried rfl rfl))
  have run := run.turn
    (@Move.failed _ (.rollbackTo 1)
      ⟨.rollbackTo ⟨7⟩ "prv_1_sp_1", .error (.timeout "statement execution" 30)⟩ _ _ rfl
      rfl).course
    (path_singleton_iff.2 (.doubtful rfl rfl rfl))
  have run := run.turn (Move.undone (t := ⟨7⟩) (n := 1) rfl rfl).course
    (path_singleton_iff.2 (.carried rfl rfl))
  exact ⟨_, _, _, _, _, run, ⟨rfl, Nat.le_succ 1, le_rfl, .inl ⟨rfl, rfl⟩⟩, rfl, rfl, rfl⟩

end Provider

end NestedTx
