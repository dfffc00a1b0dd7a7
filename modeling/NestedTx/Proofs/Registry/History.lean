import NestedTx.Proofs.Command.Course

/-!
# Histories of a registry

Registrations, look-ups and calls that close everything share one registry. A call that closes
everything empties the registry in one step and closes what was in it in later ones, and in between
anybody else can take a turn. A history lists all steps with what came of them.
-/

namespace NestedTx.Registry

open Dialogue Registration

/-! ### Steps -/

/-- What was done to a registry, with what came of it. Calls that close everything are numbered in
the order in which they were made, and they go on by exchanges with the host. -/
inductive Event where
  | register (name : String) (r : ResourceId) (result : DbResult Unit)
  | unregister (name : String) (result : DbResult ResourceId)
  | lookup (name : String) (result : DbResult ResourceId)
  | provider (name : String) (result : DbResult Provider)
  | contains (name : String) (taken : Bool)
  | names (names : List String)
  | size (size : Nat)
  | closeAll
  | sweep (i : Nat) (x : HostExchange)

/-- What is shared, and the calls that close everything with what is left of them. -/
structure Custody extends Holdings where
  sweeps : List (HostDialogue Unit)

/-- The replies of the host when a provider is made. -/
inductive Answers (g : Registry ResourceId) : HostExchange → Prop
  | lookup (name : String) : Answers g ⟨.lookup name, g.lookup name⟩
  | freshId (id : String) : Answers g ⟨.freshId, id⟩

lemma Answers.found {g : Registry ResourceId} {name : String} {result : DbResult ResourceId}
    (answers : Answers g ⟨.lookup name, result⟩) : g.lookup name = result := by
  cases answers
  rfl

namespace Custody

/-- Nothing was registered, and nothing is going on. -/
def empty : Custody := ⟨⟨.empty, [], []⟩, []⟩

inductive Step (w : Custody) : Event → Custody → Prop
  | register (name : String) (r : ResourceId) :
      Step w (.register name r (w.registry.register name r).1)
        { w with registry := (w.registry.register name r).2 }
  | unregister (name : String) :
      Step w (.unregister name (w.registry.unregister name).1)
        { w with registry := (w.registry.unregister name).2 }
  | lookup (name : String) : Step w (.lookup name (w.registry.lookup name)) w
  | provider {name : String} {l : List HostExchange} {result : DbResult Provider}
      (course : Course (Command.providerFor name) l result)
      (answered : ∀ x ∈ l, Answers w.registry x) :
      Step w (.provider name result) w
  | contains (name : String) : Step w (.contains name (w.registry.contains name)) w
  | names : Step w (.names w.registry.names) w
  | size : Step w (.size w.registry.size) w
  | closeAll : Step w .closeAll { w with sweeps := w.sweeps ++ [NestedTx.closeAll] }
  | sweep {i : Nat} {call : HostCall} {reply : call.Reply} {next : call.Reply → HostDialogue Unit}
      {h : Holdings} (among : w.sweeps[i]? = some (.ask call next))
      (replies : Replies w.toHoldings ⟨call, reply⟩ h) :
      Step w (.sweep i ⟨call, reply⟩)
        { w with toHoldings := h, sweeps := w.sweeps.set i (next reply) }

/-- What can come of a registry that is empty at first. -/
inductive Run : List Event → Custody → Prop
  | start : Run [] empty
  | step {history : List Event} {w w' : Custody} {event : Event} (run : Run history w)
      (step : w.Step event w') : Run (history ++ [event]) w'

variable {w w' : Custody} {name : String} {r : ResourceId} {e : DbError}

/-- A registration is refused if the name is taken, and changes nothing then. -/
lemma Step.register_error (step : w.Step (.register name r (.error e)) w') :
    w.registry.contains name = true ∧ e = .nameConflict name ∧ w' = w := by
  generalize hx : Event.register name r (.error e) = event at step
  cases step with
  | register name' r' =>
    injection hx with hn hr result
    subst hn hr
    rw [register_eq] at result ⊢
    cases taken : w.registry.contains name with
    | true =>
      rw [taken, if_pos rfl] at result
      rw [claim_of_contains taken]
      exact ⟨rfl, Except.error.inj result, rfl⟩
    | false =>
      rw [taken] at result
      cases result
  | _ => cases hx

/-- Nothing can be taken out under a name that is free, and the attempt changes nothing. -/
lemma Step.unregister_error (step : w.Step (.unregister name (.error e)) w') :
    w.registry.contains name = false ∧ e = .nameNotFound name ∧ w' = w := by
  generalize hx : Event.unregister name (.error e) = event at step
  cases step with
  | unregister name' =>
    injection hx with hn result
    subst hn
    rw [Registry.unregister] at result ⊢
    cases found : w.registry.get? name with
    | none =>
      rw [found] at result
      exact ⟨not_contains_iff.2 found, Except.error.inj result, rfl⟩
    | some r =>
      rw [found] at result
      cases result
  | _ => cases hx

/-- A provider is made for the resource that is registered, and changes nothing. -/
lemma Step.provider_eq {result : DbResult Provider} (step : w.Step (.provider name result) w') :
    w' = w ∧
      ((∃ id r, w.registry.lookup name = .ok r ∧ result = .ok (Provider.new id r)) ∨
        ∃ e, w.registry.lookup name = .error e ∧ result = .error e) := by
  cases step with
  | provider course answered =>
    refine ⟨rfl, ?_⟩
    obtain ⟨e, rfl, rfl⟩ | ⟨r, id, rfl, rfl⟩ := Command.course_providerFor_iff.1 course
    · exact .inr ⟨e, (answered _ List.mem_cons_self).found, rfl⟩
    · exact .inl ⟨id, r, (answered _ List.mem_cons_self).found, rfl⟩

end Custody

end NestedTx.Registry
