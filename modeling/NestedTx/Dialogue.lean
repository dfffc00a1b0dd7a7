/-!
# Dialogues

A program that depends on a database is written as a dialogue: it asks a request, goes on with the
reply, and in the end gives an answer. The replies are left open, so that one program can be run
against a real server, against a model of one, or against every server there could be.
-/

namespace NestedTx

/-- A program that asks requests of type `ρ`, each of which has a reply of type `ω r`, and ends in
an answer of type `α`. -/
inductive Dialogue (ρ : Type) (ω : ρ → Type) (α : Type) where
  | answer (a : α)
  | ask (r : ρ) (next : ω r → Dialogue ρ ω α)

namespace Dialogue

variable {ρ : Type} {ω : ρ → Type} {α β γ : Type}

/-- Goes on with the answer of a dialogue. -/
def andThen : Dialogue ρ ω α → (α → Dialogue ρ ω β) → Dialogue ρ ω β
  | answer a, k => k a
  | ask r next, k => ask r fun reply => (next reply).andThen k

instance : Monad (Dialogue ρ ω) where
  pure := answer
  bind := andThen

/-- Asks one request and answers with its reply. -/
def request (r : ρ) : Dialogue ρ ω (ω r) :=
  ask r answer

/-- Holds a dialogue with a partner that replies in a monad. -/
def runWith {m : Type → Type} [Monad m] (reply : (r : ρ) → m (ω r)) : Dialogue ρ ω α → m α
  | answer a => pure a
  | ask r next => do runWith reply (next (← reply r))

@[simp] theorem answer_andThen (a : α) (k : α → Dialogue ρ ω β) : (answer a).andThen k = k a := rfl

@[simp] theorem ask_andThen (r : ρ) (next : ω r → Dialogue ρ ω α) (k : α → Dialogue ρ ω β) :
    (ask r next).andThen k = ask r fun reply => (next reply).andThen k := rfl

@[simp] theorem andThen_answer (d : Dialogue ρ ω α) : d.andThen answer = d := by
  induction d with
  | answer a => rfl
  | ask r next ih => simp [ih]

theorem andThen_assoc (d : Dialogue ρ ω α) (k : α → Dialogue ρ ω β) (l : β → Dialogue ρ ω γ) :
    (d.andThen k).andThen l = d.andThen fun a => (k a).andThen l := by
  induction d with
  | answer a => rfl
  | ask r next ih => simp [ih]

theorem bind_eq_andThen (d : Dialogue ρ ω α) (k : α → Dialogue ρ ω β) :
    d >>= k = d.andThen k := rfl

instance : LawfulMonad (Dialogue ρ ω) :=
  LawfulMonad.mk' (Dialogue ρ ω) (fun d => andThen_answer d) (fun _ _ => rfl) andThen_assoc

end Dialogue

end NestedTx
