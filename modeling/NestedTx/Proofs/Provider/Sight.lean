import Mathlib.Data.List.Forall2
import Mathlib.Data.Set.Defs
import NestedTx.Proofs.Provider.Backend

/-!
# What is seen of a run

A run shows its operations, the calls with their replies, the answers, and the provider with its
depth. Of the data it shows those that a statement would meet and those that are durable, but no
savepoints. Two backends are seen alike if each can follow the other with the same calls and
replies. A backend that leaves the replies no choice is followed in one way only.
-/

namespace NestedTx

open Dialogue

variable {δ : Type}

/-- The data that a statement would meet now, and those that would survive a crash. -/
structure Sight (δ : Type) where
  visible : Option δ
  durable : δ
  deriving Repr, DecidableEq

lemma forall₂_concat {α β : Type} {R : α → β → Prop} {l : List α} {l' : List β} {a : α} {b : β} :
    List.Forall₂ R (l ++ [a]) (l' ++ [b]) ↔ List.Forall₂ R l l' ∧ R a b := by
  rw [← List.forall₂_reverse_iff]
  simp [and_comm]

namespace Provider

def sight (p : Provider) (s : Stored δ) : Sight δ :=
  ⟨s.dataAt? p.route, s.durable⟩

/-- A turn with the data as they are seen. -/
def Turn.seen (u : Turn (Stored δ)) : Turn (Sight δ) :=
  ⟨u.provider, u.provider.sight u.state, u.operation, u.calls, u.answer, u.next,
    u.next.sight u.nextState⟩

/-- The histories as they may be seen from a provider and its backend on. -/
def outlook (Step : Stored δ → CallExchange → Stored δ → Prop) (p : Provider) (s : Stored δ) :
    Set (List (Turn (Sight δ))) :=
  {seen | ∃ history q s', Run Step p s history q s' ∧ history.map Turn.seen = seen}

/-! ### Backends that are seen alike -/

/-- A relation between backends that are seen alike, in which the second follows the first through
each operation. -/
structure Simulation (Step Step' : Stored δ → CallExchange → Stored δ → Prop)
    (R : Provider → Stored δ → Stored δ → Prop) : Prop where
  sight_eq {p : Provider} {s t : Stored δ} (related : R p s t) : p.sight s = p.sight t
  follow {p q : Provider} {op : Operation} {calls : List CallExchange} {a : Answer}
    {s s' t : Stored δ} (related : R p s t) (move : p.Move op calls a q)
    (path : Path Step s calls s') : ∃ t', Path Step' t calls t' ∧ R q s' t'

variable {Step Step' : Stored δ → CallExchange → Stored δ → Prop}
  {R : Provider → Stored δ → Stored δ → Prop} {p₀ p : Provider} {s₀ s t₀ : Stored δ}
  {history : List (Turn (Stored δ))}

lemma Simulation.exists_run (sim : Simulation Step Step' R)
    (run : Run Step p₀ s₀ history p s) (related : R p₀ s₀ t₀) :
    ∃ history' t, Run Step' p₀ t₀ history' p t ∧ R p s t ∧
      history'.map Turn.seen = history.map Turn.seen := by
  induction run with
  | start => exact ⟨[], t₀, .start, related, rfl⟩
  | @turn history p q s s' op calls a run course path ih =>
    obtain ⟨history', t, run', before, seen⟩ := ih
    -- the follower takes the same calls with the same replies, so the provider is the same
    obtain ⟨t', path', after⟩ := sim.follow before (Move.of_course course) path
    refine ⟨history' ++ [⟨p, t, op, calls, a, q, t'⟩], t', run'.turn course path', after, ?_⟩
    rw [List.map_append, List.map_append, seen, List.map_singleton, List.map_singleton, Turn.seen,
      Turn.seen, sim.sight_eq before, sim.sight_eq after]

lemma Simulation.outlook_subset (sim : Simulation Step Step' R) (related : R p₀ s₀ t₀) :
    outlook Step p₀ s₀ ⊆ outlook Step' p₀ t₀ := by
  rintro _ ⟨history, q, s', run, rfl⟩
  obtain ⟨history', t, run', -, seen⟩ := sim.exists_run run related
  exact ⟨history', q, t, run', seen⟩

/-! ### Runs that are determined -/

/-- The turns are of one operation, and the calls at the same place in them meet the same fate. -/
def Turn.Parallel {σ τ : Type} (Same : CallExchange → CallExchange → Prop) (u : Turn σ)
    (v : Turn τ) : Prop :=
  u.operation = v.operation ∧ ∀ z ∈ u.calls.zip v.calls, Same z.1 z.2

lemma Run.of_nil {σ : Type} {Step : σ → CallExchange → σ → Prop} {p₀ p : Provider} {s₀ s : σ}
    (run : Run Step p₀ s₀ [] p s) : p = p₀ ∧ s = s₀ := by
  generalize hl : [] = l at run
  cases run with
  | start => exact ⟨rfl, rfl⟩
  | turn run course path => exact absurd hl.symm (by simp)

/-- A run is determined by its operations and the fates of its calls. -/
lemma Run.unique {σ : Type} {Step : σ → CallExchange → σ → Prop} {p₀ p p' : Provider}
    {s₀ s s' : σ} {history history' : List (Turn σ)} {Same : CallExchange → CallExchange → Prop}
    (determined : Determines Same Step) (run : Run Step p₀ s₀ history p s)
    (run' : Run Step p₀ s₀ history' p' s')
    (parallel : List.Forall₂ (Turn.Parallel Same) history history') :
    history = history' ∧ p = p' ∧ s = s' := by
  induction run generalizing history' p' s' with
  | start =>
    obtain rfl := List.forall₂_nil_left_iff.1 parallel
    obtain ⟨rfl, rfl⟩ := run'.of_nil
    exact ⟨rfl, rfl, rfl⟩
  | turn run course path ih =>
    cases run' with
    | start => exact absurd (List.forall₂_nil_right_iff.1 parallel) (by simp)
    | turn run' course' path' =>
      obtain ⟨earlier, same, fates⟩ := forall₂_concat.1 parallel
      -- the histories agree up to here, so that the operations begin at one place
      obtain ⟨rfl, rfl, rfl⟩ := ih run' earlier
      obtain rfl := same
      obtain ⟨rfl, answered, rfl⟩ := course.unique determined course' path path' fates
      obtain ⟨rfl, rfl⟩ := Prod.mk.inj answered
      exact ⟨rfl, rfl, rfl⟩

end Provider

end NestedTx
