import NestedTx.Proofs.Registry.Ledger

/-!
# Nothing is lost and nothing is doubled

Whatever is done to a registry, and in whatever order the calls that close everything take their
turns, its ledger balances. What the registry answers can be read off the ledger.
-/

namespace NestedTx.Registry

open Registration

variable {history : List Event} {w w' : Custody} {event : Event} {l : Ledger} {name : String}
  {r : ResourceId} {i : Nat}

/-! ### What the registry answers -/

lemma names_ordered (g : Registry ResourceId) : g.names.Pairwise (· < ·) :=
  List.pairwise_map.2 g.ordered

namespace Ledger.Balances

variable (h : l.Balances history w)

include h

lemma names : w.registry.names = l.standing.map Transfer.name := by
  rw [Registry.names, ← h.listed, List.map_map]
  rfl

lemma lookup_iff :
    w.registry.lookup name = .ok r ↔ ∃ d ∈ l.standing, d.name = name ∧ d.resource = r := by
  rw [lookup_eq_ok_iff, get?_eq_some_iff, ← h.listed, List.mem_map]
  simp only [Transfer.entry, Prod.mk.injEq]

lemma contains_iff : w.registry.contains name = true ↔ ∃ d ∈ l.standing, d.name = name := by
  rw [Registry.contains_iff]
  simp only [← lookup_eq_ok_iff, h.lookup_iff]
  constructor
  · rintro ⟨r, d, hd, same, -⟩
    exact ⟨d, hd, same⟩
  · rintro ⟨d, hd, same⟩
    exact ⟨d.resource, d, hd, same, rfl⟩

/-- A call that closes everything has closed all that it took when it returns. -/
lemma waiting_eq_nil {t : Taking} (ht : l.takings[i]? = some t)
    (returned : w.sweeps[i]? = some (.answer ())) : t.waiting = [] := by
  have progress := h.swept.progress ht returned
  generalize hk : Dialogue.answer () = k at progress
  cases progress with
  | called => rfl
  | @drained _ _ waiting =>
    cases waiting with
    | nil => rfl
    | cons d rest => cases hk

/-- A call that closes everything can go on until it returns. -/
lemma goes_on {k : HostDialogue Unit} (hk : w.sweeps[i]? = some k) :
    k = .answer () ∨ ∃ x w', w.Step (.sweep i x) w' := by
  obtain ⟨t, ht⟩ := h.swept.exists_taking hk
  cases h.swept.progress ht hk with
  | called => exact .inr ⟨_, _, .sweep hk .drained⟩
  | @drained _ _ waiting =>
    cases waiting with
    | nil => exact .inl rfl
    | cons d rest => exact .inr ⟨_, _, .sweep hk (.closed d.resource)⟩

/-- Only the calls that close everything close something. -/
lemma closed_step (step : w.Step event w') :
    w'.closed = w.closed ∨
      ∃ i r, event = .sweep i ⟨.resource (.close r), ()⟩ ∧ w'.closed = r :: w.closed := by
  cases step with
  | @sweep i call reply next h' among replies =>
    obtain ⟨t, ht⟩ := h.swept.exists_taking among
    obtain ⟨-, rfl, -⟩ | ⟨closed, d, waiting, -, made, rfl, -⟩ :=
      (h.swept.progress ht among).next replies
    · exact .inl rfl
    · exact .inr ⟨i, d.resource, congrArg _ made, rfl⟩
  | _ => exact .inl rfl

end Ledger.Balances

/-! ### All of it -/

/-- At every moment, whatever was put into the registry is in exactly one place: it stands under its
name, it was handed out by one call, or it was taken by one of the calls that close everything, all
in its place before that call emptied the registry, and is closed by that call once. Nobody else
closes anything. The names are those of what stands, in increasing order, with what was put in last.
Calls that fail change nothing. -/
theorem loses_nothing (run : Custody.Run history w) :
    (∃ l : Ledger, l.Balances history w ∧ l.all.Nodup ∧
      (∀ (i : Nat) (t : Taking), l.takings[i]? = some t → w.sweeps[i]? = some (.answer ()) →
        t.waiting = []) ∧
      w.registry.names = l.standing.map Transfer.name ∧
      (∀ name, w.registry.contains name = true ↔ ∃ d ∈ l.standing, d.name = name) ∧
      ∀ name r,
        w.registry.lookup name = .ok r ↔ ∃ d ∈ l.standing, d.name = name ∧ d.resource = r) ∧
    w.registry.names.Pairwise (· < ·) ∧ w.registry.size = w.registry.names.length ∧
    (∀ name, w.registry.contains name = false →
      w.registry.lookup name = .error (.nameNotFound name)) ∧
    (∀ (i : Nat) (k : HostDialogue Unit), w.sweeps[i]? = some k →
      k = .answer () ∨ ∃ x w', w.Step (.sweep i x) w') ∧
    (∀ event w', w.Step event w' → w'.closed = w.closed ∨
      ∃ i r, event = .sweep i ⟨.resource (.close r), ()⟩ ∧ w'.closed = r :: w.closed) ∧
    (∀ name r e w', w.Step (.register name r (.error e)) w' →
      w.registry.contains name = true ∧ e = .nameConflict name ∧ w' = w) ∧
    (∀ name e w', w.Step (.unregister name (.error e)) w' →
      w.registry.contains name = false ∧ e = .nameNotFound name ∧ w' = w) ∧
    ∀ name result w', w.Step (.provider name result) w' → w' = w ∧
      ((∃ id r, w.registry.lookup name = .ok r ∧ result = .ok (Provider.new id r)) ∨
        ∃ e, w.registry.lookup name = .error e ∧ result = .error e) := by
  obtain ⟨l, h⟩ := run.balances
  refine ⟨⟨l, h, ?_, ?_, h.names, fun _ => h.contains_iff, fun _ _ => h.lookup_iff⟩,
    names_ordered w.registry, (List.length_map _).symm, fun _ => lookup_of_not_contains,
    fun _ _ => h.goes_on, fun _ _ => h.closed_step, ?_, ?_, ?_⟩
  · exact h.conserved.nodup_iff.2 (nodup_deposits history)
  · exact fun i t => h.waiting_eq_nil
  · exact fun name r e w' step => step.register_error
  · exact fun name e w' step => step.unregister_error
  · exact fun name result w' step => step.provider_eq

/-- Two calls that close everything overlap, and what is put in after the first has emptied the
registry is left to the second. -/
theorem loses_nothing_overlapping :
    ∃ (history : List Event) (w : Custody), Custody.Run history w ∧
      w.sweeps = [.answer (), closeEach [⟨3⟩]] ∧ w.closed = [⟨1⟩] ∧
      withdrawals history = [⟨5, "spare", ⟨2⟩⟩] ∧ w.registry.names = ["main"] ∧
      w.registry.lookup "main" = .ok ⟨4⟩ ∧ ∃ l : Ledger, l.Balances history w ∧ l.all.Nodup := by
  have run : Custody.Run [] .empty := .start
  have run := run.step (.register "main" ⟨1⟩)
  have run := run.step (.register "spare" ⟨2⟩)
  have run := run.step (.register "main" ⟨9⟩)
  have run := run.step .closeAll
  have run := run.step .closeAll
  have run := run.step (.unregister "spare")
  have run := run.step (@Custody.Step.sweep _ 0 _ _ _ _ rfl .drained)
  have run := run.step (.register "main" ⟨3⟩)
  have run := run.step (@Custody.Step.sweep _ 1 _ _ _ _ rfl .drained)
  have run := run.step (.register "main" ⟨4⟩)
  have run := run.step (@Custody.Step.sweep _ 0 _ _ _ _ rfl (.closed ⟨1⟩))
  obtain ⟨⟨l, balances, nodup, -⟩, -⟩ := loses_nothing run
  exact ⟨_, _, run, rfl, rfl, rfl, rfl, rfl, l, balances, nodup⟩

end NestedTx.Registry
