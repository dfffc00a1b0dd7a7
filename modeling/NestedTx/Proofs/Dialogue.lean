import Mathlib.Tactic.Common
import NestedTx.Dialogue

/-!
# Courses of a dialogue

A dialogue fixes the requests and leaves the replies open. A course of it is a list of requests with
the replies they met, together with the answer they led to. What a partner makes of such a list is
said apart, as a path of its states, so that one account of a program serves every partner.
-/

namespace NestedTx

namespace Dialogue

variable {ρ : Type} {ω : ρ → Type} {α β : Type}

/-- A request with its reply. -/
abbrev Exchange (ρ : Type) (ω : ρ → Type) : Type :=
  (r : ρ) × ω r

/-! ### Courses -/

/-- The dialogue can go through the exchanges and end in the answer. -/
inductive Course : Dialogue ρ ω α → List (Exchange ρ ω) → α → Prop
  | answer (a : α) : Course (.answer a) [] a
  | ask {r : ρ} {next : ω r → Dialogue ρ ω α} (w : ω r) {l : List (Exchange ρ ω)} {a : α}
      (rest : Course (next w) l a) : Course (.ask r next) (⟨r, w⟩ :: l) a

@[simp] lemma course_answer_iff {a b : α} {l : List (Exchange ρ ω)} :
    Course (.answer a) l b ↔ l = [] ∧ b = a := by
  constructor
  · rintro ⟨⟩
    exact ⟨rfl, rfl⟩
  · rintro ⟨rfl, rfl⟩
    exact .answer _

@[simp] lemma course_ask_iff {r : ρ} {next : ω r → Dialogue ρ ω α} {l : List (Exchange ρ ω)}
    {a : α} :
    Course (.ask r next) l a ↔ ∃ w rest, l = ⟨r, w⟩ :: rest ∧ Course (next w) rest a := by
  constructor
  · intro h
    cases h with
    | ask w rest => exact ⟨w, _, rfl, rest⟩
  · rintro ⟨w, rest, rfl, h⟩
    exact .ask w h

/-- A dialogue without requests is its answer. -/
lemma course_nil_iff {d : Dialogue ρ ω α} {a : α} : Course d [] a ↔ d = .answer a := by
  constructor
  · intro h
    cases h
    rfl
  · rintro rfl
    exact .answer a

/-- What a dialogue does and then what follows on its answer. -/
lemma course_andThen_iff {d : Dialogue ρ ω α} {k : α → Dialogue ρ ω β} {l : List (Exchange ρ ω)}
    {b : β} :
    Course (d.andThen k) l b ↔
      ∃ first later a, l = first ++ later ∧ Course d first a ∧ Course (k a) later b := by
  constructor
  · intro h
    induction d generalizing l with
    | answer a => exact ⟨[], l, a, rfl, .answer a, h⟩
    | ask r next ih =>
      obtain ⟨w, rest, rfl, asked⟩ := course_ask_iff.1 h
      obtain ⟨first, later, a, rfl, begun, ended⟩ := ih w asked
      exact ⟨_ :: first, later, a, rfl, .ask w begun, ended⟩
  · rintro ⟨first, later, a, rfl, begun, ended⟩
    induction begun with
    | answer a => exact ended
    | ask w rest ih => exact .ask w (ih ended)

lemma course_andThen_answer_iff {d : Dialogue ρ ω α} {f : α → β} {l : List (Exchange ρ ω)} {b : β} :
    Course (d.andThen fun a => .answer (f a)) l b ↔ ∃ a, Course d l a ∧ b = f a := by
  constructor
  · intro h
    obtain ⟨first, later, a, rfl, begun, ended⟩ := course_andThen_iff.1 h
    obtain ⟨rfl, rfl⟩ := course_answer_iff.1 ended
    exact ⟨a, by rwa [List.append_nil], rfl⟩
  · rintro ⟨a, h, rfl⟩
    exact course_andThen_iff.2 ⟨l, [], a, (List.append_nil l).symm, h, .answer _⟩

/-- Whatever is replied, a dialogue comes to an end. -/
lemma exists_course (d : Dialogue ρ ω α) (reply : (r : ρ) → ω r) :
    ∃ l a, Course d l a ∧ ∀ x ∈ l, x.2 = reply x.1 := by
  induction d with
  | answer a => exact ⟨[], a, .answer a, List.forall_mem_nil _⟩
  | ask r next ih =>
    obtain ⟨l, a, course, replied⟩ := ih (reply r)
    refine ⟨⟨r, reply r⟩ :: l, a, .ask _ course, ?_⟩
    exact List.forall_mem_cons.2 ⟨rfl, replied⟩

/-! ### Paths -/

variable {σ τ : Type} {Step : σ → Exchange ρ ω → σ → Prop} {s s' : σ}

/-- A partner whose state changes by `Step` can take part in the exchanges. -/
inductive Path (Step : σ → Exchange ρ ω → σ → Prop) : σ → List (Exchange ρ ω) → σ → Prop
  | nil (s : σ) : Path Step s [] s
  | cons {s s' s'' : σ} {x : Exchange ρ ω} {l : List (Exchange ρ ω)} (step : Step s x s')
      (rest : Path Step s' l s'') : Path Step s (x :: l) s''

@[simp] lemma path_nil_iff : Path Step s [] s' ↔ s' = s := by
  constructor
  · rintro ⟨⟩
    rfl
  · rintro rfl
    exact .nil _

@[simp] lemma path_cons_iff {x : Exchange ρ ω} {l : List (Exchange ρ ω)} :
    Path Step s (x :: l) s' ↔ ∃ u, Step s x u ∧ Path Step u l s' := by
  constructor
  · intro h
    cases h with
    | cons step rest => exact ⟨_, step, rest⟩
  · rintro ⟨u, step, rest⟩
    exact .cons step rest

@[simp] lemma path_singleton_iff {x : Exchange ρ ω} : Path Step s [x] s' ↔ Step s x s' := by
  rw [path_cons_iff]
  constructor
  · rintro ⟨u, step, rest⟩
    obtain rfl := path_nil_iff.1 rest
    exact step
  · intro step
    exact ⟨s', step, .nil _⟩

lemma path_append_iff {l m : List (Exchange ρ ω)} :
    Path Step s (l ++ m) s' ↔ ∃ u, Path Step s l u ∧ Path Step u m s' := by
  induction l generalizing s with
  | nil => simp
  | cons x l ih =>
    simp only [List.cons_append, path_cons_iff, ih]
    constructor
    · rintro ⟨v, step, u, first, later⟩
      exact ⟨u, ⟨v, step, first⟩, later⟩
    · rintro ⟨u, ⟨v, step, first⟩, later⟩
      exact ⟨v, step, u, first, later⟩

/-- With a partner that replies to everything a dialogue comes to an end. -/
lemma exists_path (d : Dialogue ρ ω α) (answer : σ → (r : ρ) → ω r × σ) (s : σ) :
    ∃ l a s', Course d l a ∧ Path (fun s x s' => (x.2, s') = answer s x.1) s l s' := by
  induction d generalizing s with
  | answer a => exact ⟨[], a, s, .answer a, .nil s⟩
  | ask r next ih =>
    obtain ⟨l, a, s', course, path⟩ := ih (answer s r).1 (answer s r).2
    exact ⟨⟨r, (answer s r).1⟩ :: l, a, s', .ask _ course, .cons rfl path⟩

/-- A partner without a state of its own takes part in all exchanges that it admits. -/
lemma Path.of_forall {P : Exchange ρ ω → Prop} {l : List (Exchange ρ ω)} (h : ∀ x ∈ l, P x) :
    Path (fun (_ : Unit) x _ => P x) () l () := by
  induction l with
  | nil => exact .nil ()
  | cons x l ih =>
    obtain ⟨first, others⟩ := List.forall_mem_cons.1 h
    exact .cons first (ih others)

/-- A partner that is seen through a view goes along a path of views. -/
lemma Path.map {View : τ → Exchange ρ ω → τ → Prop} (view : σ → τ)
    (h : ∀ {s x s'}, Step s x s' → View (view s) x (view s')) {l : List (Exchange ρ ω)}
    (path : Path Step s l s') : Path View (view s) l (view s') := by
  induction path with
  | nil s => exact .nil _
  | cons step _ ih => exact .cons (h step) ih

/-- A partner that can follow every step of another can follow it along a path. -/
lemma Path.follow {Step' : τ → Exchange ρ ω → τ → Prop} {R : σ → τ → Prop}
    (h : ∀ {s x s' t}, R s t → Step s x s' → ∃ t', Step' t x t' ∧ R s' t')
    {l : List (Exchange ρ ω)} {t : τ} (path : Path Step s l s') (related : R s t) :
    ∃ t', Path Step' t l t' ∧ R s' t' := by
  induction path generalizing t with
  | nil s => exact ⟨t, .nil t, related⟩
  | cons step _ ih =>
    obtain ⟨u, step', before⟩ := h related step
    obtain ⟨t', rest', after⟩ := ih before
    exact ⟨t', .cons step' rest', after⟩

/-- The fates of requests leave a partner no choice: requests of one kind that meet the same fate
have the same reply, and lead to the same state. -/
def Determines (Same : Exchange ρ ω → Exchange ρ ω → Prop)
    (Step : σ → Exchange ρ ω → σ → Prop) : Prop :=
  ∀ ⦃s x y s₁ s₂⦄, Step s x s₁ → Step s y s₂ → x.1 = y.1 → Same x y → x = y ∧ s₁ = s₂

/-- Two courses of one dialogue are the same if their requests meet the same fates. -/
lemma Course.unique {Same : Exchange ρ ω → Exchange ρ ω → Prop} (determined : Determines Same Step)
    {d : Dialogue ρ ω α} {l l' : List (Exchange ρ ω)} {a b : α} {s₁ s₂ : σ} (course : Course d l a)
    (course' : Course d l' b) (path : Path Step s l s₁) (path' : Path Step s l' s₂)
    (same : ∀ z ∈ l.zip l', Same z.1 z.2) : l = l' ∧ a = b ∧ s₁ = s₂ := by
  induction course generalizing l' s with
  | answer a =>
    obtain ⟨rfl, rfl⟩ := course_answer_iff.1 course'
    obtain rfl := path_nil_iff.1 path
    obtain rfl := path_nil_iff.1 path'
    exact ⟨rfl, rfl, rfl⟩
  | ask w rest ih =>
    obtain ⟨w', _, rfl, rest'⟩ := course_ask_iff.1 course'
    obtain ⟨u, step, steps⟩ := path_cons_iff.1 path
    obtain ⟨u', step', steps'⟩ := path_cons_iff.1 path'
    obtain ⟨first, later⟩ := List.forall_mem_cons.1 same
    obtain ⟨hw, rfl⟩ := determined step step' rfl first
    obtain rfl : w = w' := by simpa using hw
    obtain ⟨rfl, rfl, rfl⟩ := ih rest' steps steps' later
    exact ⟨rfl, rfl, rfl⟩

end Dialogue

end NestedTx
