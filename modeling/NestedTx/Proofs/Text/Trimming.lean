import Mathlib.Data.List.Basic
import Mathlib.Data.List.Infix
import Mathlib.Tactic.Common
import NestedTx.Text.Ascii
import NestedTx.Text.Blank

/-!
# What is cut off a text

White space is cut off both ends of a text, and a word off its end as often as it stands there.
-/

namespace NestedTx.Text

/-! ### Both ends -/

section Ends

variable {α : Type} {p : α → Bool} {l core : List α}

/-- `core` is what is left of a list without the elements at both ends that satisfy `p`. -/
structure Trimmed (p : α → Bool) (l core : List α) : Prop where
  around : ∃ lead trail, l = lead ++ core ++ trail ∧ (∀ a ∈ lead, p a = true) ∧
    ∀ a ∈ trail, p a = true
  first : ∀ a ∈ core.head?, p a = false
  last : ∀ a ∈ core.getLast?, p a = false

lemma head?_dropWhile_eq_false {a : α} (h : a ∈ (l.dropWhile p).head?) : p a = false := by
  have first := List.head?_dropWhile_not p l
  rw [Option.mem_def.1 h] at first
  simpa using first

lemma dropWhile_of_head? (h : ∀ a ∈ l.head?, p a = false) : l.dropWhile p = l := by
  cases l with
  | nil => rfl
  | cons a l => exact List.dropWhile_cons_of_neg (by simp [h a rfl])

/-- What is cut off the front of a text ends in front of what stops it. -/
lemma takeWhile_append_of_stop {rest : List α} (stop : ∀ a ∈ rest.head?, p a = false)
    (l : List α) :
    (l ++ rest).takeWhile p = l.takeWhile p ∧
      (l ++ rest).dropWhile p = l.dropWhile p ++ rest := by
  induction l with
  | nil =>
    cases rest with
    | nil => exact ⟨rfl, rfl⟩
    | cons a rest => simp [stop a rfl]
  | cons a l ih =>
    by_cases ha : p a = true
    · simp [ha, ih]
    · simp [ha]

lemma trimmed_trimWhere (p : α → Bool) (l : List α) : Trimmed p l (trimWhere p l) := by
  -- the list is what is cut in front, the core and what is cut behind
  have front := List.takeWhile_append_dropWhile (p := p) (l := l)
  have back := congrArg List.reverse
    (List.takeWhile_append_dropWhile (p := p) (l := (l.dropWhile p).reverse))
  rw [List.reverse_append, List.reverse_reverse] at back
  refine ⟨⟨l.takeWhile p, ((l.dropWhile p).reverse.takeWhile p).reverse, ?_, ?_, ?_⟩, ?_, ?_⟩
  · rw [trimWhere, List.append_assoc, back, front]
  · exact List.all_eq_true.1 List.all_takeWhile
  · intro a ha
    exact List.all_eq_true.1 List.all_takeWhile a (List.mem_reverse.1 ha)
  · intro a ha
    apply head?_dropWhile_eq_false (l := l)
    rw [← back]
    exact List.mem_head?_append_of_mem_head? ha
  · intro a ha
    rw [trimWhere, List.getLast?_reverse] at ha
    exact head?_dropWhile_eq_false ha

/-- What is left of a list is determined by how it begins and ends. -/
lemma trimWhere_eq_iff : trimWhere p l = core ↔ Trimmed p l core := by
  constructor
  · rintro rfl
    exact trimmed_trimWhere p l
  · rintro ⟨⟨lead, trail, rfl, lead_cut, trail_cut⟩, first, last⟩
    rw [trimWhere, List.append_assoc, List.dropWhile_append_of_pos lead_cut]
    cases core with
    | nil =>
      have gone : trail.dropWhile p = [] := by
        rw [← List.append_nil trail, List.dropWhile_append_of_pos trail_cut]
        rfl
      rw [List.nil_append, gone]
      rfl
    | cons a core =>
      have start : ∀ b ∈ (a :: core ++ trail).head?, p b = false := by
        rintro b hb
        exact first b hb
      have cut : ∀ b ∈ trail.reverse, p b = true := fun b hb => trail_cut b (List.mem_reverse.1 hb)
      rw [dropWhile_of_head? start, List.reverse_append, List.dropWhile_append_of_pos cut,
        dropWhile_of_head? (by rwa [List.head?_reverse]), List.reverse_reverse]

end Ends

/-! ### Fronts -/

/-- A front of a text that nothing behind the cut can belong to ends in front of the cut. -/
lemma prefix_of_prefix_append {α : Type} {l front back : List α} (h : l <+: front ++ back)
    (hb : ∀ a ∈ back.head?, a ∉ l) : l <+: front := by
  rcases List.prefix_or_prefix_of_prefix h (List.prefix_append _ _) with inside | ⟨more, rfl⟩
  · exact inside
  · rw [List.prefix_append_right_inj] at h
    cases more with
    | nil => rw [List.append_nil]
    | cons a more =>
      obtain ⟨rest, rfl⟩ := h
      exact absurd (List.mem_append_right _ List.mem_cons_self) (hb a rfl)

/-! ### Copies of a word -/

/-- Copies of a word, one behind the other. -/
def copies (k : Nat) (word : List Char) : List Char :=
  (List.replicate k word).flatten

variable {cs rest word : List Char}

lemma copies_succ (k : Nat) (word : List Char) : copies (k + 1) word = word ++ copies k word := by
  rw [copies, List.replicate_succ, List.flatten_cons, copies]

lemma copies_singleton (k : Nat) (c : Char) : copies k [c] = List.replicate k c := by
  simp [copies]

lemma reverse_copies (k : Nat) (word : List Char) :
    (copies k word).reverse = copies k word.reverse := by
  simp [copies, List.reverse_flatten]

lemma le_length_copies (hw : word ≠ []) (k : Nat) : k ≤ (copies k word).length := by
  have long : 0 < word.length := List.length_pos_iff.2 hw
  induction k with
  | zero => exact Nat.zero_le _
  | succ k ih =>
    rw [copies_succ, List.length_append]
    omega

lemma dropCopies_copies (hw : word ≠ []) (h : ¬word <+: rest) {k n : Nat} (hk : k ≤ n) :
    dropCopies word n (copies k word ++ rest) = rest := by
  induction n generalizing k with
  | zero =>
    obtain rfl := Nat.le_zero.1 hk
    rfl
  | succ n ih =>
    rw [dropCopies, if_neg (by simpa using hw)]
    cases k with
    | zero =>
      have absent : afterWord? word (copies 0 word ++ rest) = none := by
        rw [← Option.not_isSome_iff_eq_none, Option.isSome_iff_exists]
        rintro ⟨behind, found⟩
        exact h ⟨behind, (afterWord?_eq_some_iff.1 found).symm⟩
      rw [absent]
      rfl
    | succ k =>
      have found :
          afterWord? word (copies (k + 1) word ++ rest) = some (copies k word ++ rest) := by
        rw [afterWord?_eq_some_iff, copies_succ, List.append_assoc]
      rw [found]
      exact ih (Nat.le_of_succ_le_succ hk)

lemma exists_dropCopies (hw : word ≠ []) {n : Nat} (hn : cs.length ≤ n) :
    ∃ k, cs = copies k word ++ dropCopies word n cs ∧
      ¬word <+: dropCopies word n cs := by
  induction n generalizing cs with
  | zero =>
    obtain rfl := List.length_eq_zero_iff.1 (Nat.le_zero.1 hn)
    exact ⟨0, rfl, by simpa [dropCopies] using hw⟩
  | succ n ih =>
    rw [dropCopies, if_neg (by simpa using hw)]
    cases found : afterWord? word cs with
    | none =>
      refine ⟨0, rfl, ?_⟩
      rintro ⟨behind, whole⟩
      rw [afterWord?_eq_some_iff.2 whole.symm] at found
      cases found
    | some behind =>
      obtain rfl := afterWord?_eq_some_iff.1 found
      -- each copy shortens the text, so the fuel is enough
      have long : 0 < word.length := List.length_pos_iff.2 hw
      rw [List.length_append] at hn
      have short : behind.length ≤ n := by omega
      obtain ⟨k, whole, last⟩ := ih short
      refine ⟨k + 1, ?_, last⟩
      rw [copies_succ, List.append_assoc]
      exact congrArg (word ++ ·) whole

/-- What is left when a word is cut off the end of a text does not end with the word, and copies of
the word are what is cut. -/
lemma trimEnd_eq_iff (hw : word ≠ []) :
    trimEnd word cs = rest ↔ (∃ k, cs = rest ++ copies k word) ∧ ¬word <:+ rest := by
  have reversed : word.reverse ≠ [] := by simpa using hw
  constructor
  · rintro rfl
    obtain ⟨k, whole, last⟩ := exists_dropCopies reversed (Nat.le_refl cs.reverse.length)
    refine ⟨⟨k, ?_⟩, ?_⟩
    · rw [← List.reverse_inj, whole, trimEnd, trimStart]
      simp [reverse_copies]
    · rwa [trimEnd, trimStart, ← List.reverse_prefix, List.reverse_reverse]
  · rintro ⟨⟨k, rfl⟩, last⟩
    have short : k ≤ (rest ++ copies k word).reverse.length := by
      rw [List.length_reverse, List.length_append]
      exact Nat.le_add_left_of_le (le_length_copies hw k)
    have cut := dropCopies_copies reversed (by rwa [List.reverse_prefix]) short
    rw [← reverse_copies, ← List.reverse_append] at cut
    rw [trimEnd, trimStart, cut, List.reverse_reverse]

lemma trimEnd_trimEnd (hw : word ≠ []) (cs : List Char) :
    trimEnd word (trimEnd word cs) = trimEnd word cs :=
  (trimEnd_eq_iff hw).2 ⟨⟨0, (List.append_nil _).symm⟩, ((trimEnd_eq_iff hw).1 rfl).2⟩

end NestedTx.Text
