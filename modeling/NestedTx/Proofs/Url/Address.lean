import Mathlib.Data.Nat.Digits.Defs
import NestedTx.Proofs.Url.Host

/-!
# Addresses in brackets

An address of eight pieces is written with the longest run of zeros left out, and is read back from
what is written.
-/

namespace NestedTx.Url

open Text

variable {c : Char} {cs : List Char} {n : Nat} {ps : List Nat}

/-! ### What is read -/

lemma hexDigit?_lt {d : Nat} (h : hexDigit? c = some d) : d < 16 := by
  rw [hexDigit?] at h
  split_ifs at h with digit lower upper
  · cases h
    have high : c.toNat ≤ 57 := digit.2
    omega
  · cases h
    have high : c.toNat ≤ 102 := lower.2
    omega
  · cases h
    have high : c.toNat ≤ 70 := upper.2
    omega

/-- The value of digits, read on from a value. -/
def hexValue? (value : Nat) (cs : List Char) : Option Nat :=
  cs.foldlM (fun acc c => (hexDigit? c).map (16 * acc + ·)) value

lemma hexValue?_lt {value : Nat} (h : hexValue? value cs = some n) :
    n < (value + 1) * 16 ^ cs.length := by
  induction cs generalizing value with
  | nil =>
    cases h
    simp
  | cons c cs ih =>
    rw [hexValue?, List.foldlM_cons] at h
    obtain ⟨next, digit, later⟩ := Option.bind_eq_some_iff.1 h
    obtain ⟨d, read, rfl⟩ := Option.map_eq_some_iff.1 digit
    have small := hexDigit?_lt read
    calc n < (16 * value + d + 1) * 16 ^ cs.length := ih later
      _ ≤ ((value + 1) * 16) * 16 ^ cs.length := Nat.mul_le_mul_right _ (by omega)
      _ = (value + 1) * 16 ^ (cs.length + 1) := by rw [pow_succ']; ring

lemma ipv6Piece?_lt (h : ipv6Piece? cs = some n) : n < 65536 := by
  rw [ipv6Piece?] at h
  split_ifs at h with empty
  rw [not_or, Nat.not_lt] at empty
  calc n < (0 + 1) * 16 ^ cs.length := hexValue?_lt h
    _ ≤ (0 + 1) * 16 ^ 4 := Nat.mul_le_mul_left _ (Nat.pow_le_pow_right (by decide) empty.2)
    _ = 65536 := by decide

lemma ipv4Byte?_le (h : ipv4Byte? cs = some n) : n ≤ 255 := by
  rw [ipv4Byte?] at h
  split_ifs at h with shape
  · cases h
  · rw [Option.bind_eq_bind, Option.bind_some] at h
    obtain ⟨value, -, h⟩ := Option.bind_eq_some_iff.1 h
    split_ifs at h with small
    cases h
    exact small

/-- Every image is that of an element. -/
lemma exists_mem_of_mem_mapM {α β : Type} {f : α → Option β} {l : List α} {r : List β} {b : β}
    (hr : l.mapM f = some r) (hb : b ∈ r) : ∃ a ∈ l, f a = some b := by
  induction l generalizing r with
  | nil =>
    cases hr
    cases hb
  | cons x l ih =>
    rw [List.mapM_cons] at hr
    obtain ⟨y, hy, hr⟩ := Option.bind_eq_some_iff.1 hr
    obtain ⟨ys, hys, hr⟩ := Option.bind_eq_some_iff.1 hr
    cases hr
    rcases List.mem_cons.1 hb with rfl | hb
    · exact ⟨x, List.mem_cons_self, hy⟩
    · obtain ⟨a, ha, hf⟩ := ih hys hb
      exact ⟨a, List.mem_cons_of_mem _ ha, hf⟩

lemma ipv6Tail?_lt (h : ipv6Tail? cs = some ps) : ∀ p ∈ ps, p < 65536 := by
  rw [ipv6Tail?] at h
  split_ifs at h
  · obtain ⟨bytes, read, h⟩ := Option.bind_eq_some_iff.1 h
    split at h
    · rename_i a b c d
      cases h
      have small : ∀ n ∈ [a, b, c, d], n ≤ 255 := by
        intro n hn
        obtain ⟨part, -, byte⟩ := exists_mem_of_mem_mapM read hn
        exact ipv4Byte?_le byte
      simp only [List.forall_mem_cons] at small
      simp only [List.forall_mem_cons]
      refine ⟨?_, ?_, List.forall_mem_nil _⟩ <;> omega
    · cases h
  · obtain ⟨piece, read, rfl⟩ := Option.map_eq_some_iff.1 h
    exact List.forall_mem_singleton.2 (ipv6Piece?_lt read)

lemma ipv6Pieces?_cons {p : List Char} {parts : List (List Char)} (h : parts ≠ []) :
    ipv6Pieces? (p :: parts) =
      (ipv6Piece? p).bind fun n => (ipv6Pieces? parts).bind fun ps => some (n :: ps) := by
  rw [ipv6Pieces?]
  · rfl
  · exact h

lemma ipv6Pieces?_lt {parts : List (List Char)} (h : ipv6Pieces? parts = some ps) :
    ∀ p ∈ ps, p < 65536 := by
  induction parts generalizing ps with
  | nil =>
    cases h
    exact List.forall_mem_nil _
  | cons part parts ih =>
    by_cases last : parts = []
    · subst last
      exact ipv6Tail?_lt h
    · rw [ipv6Pieces?_cons last] at h
      obtain ⟨piece, read, h⟩ := Option.bind_eq_some_iff.1 h
      obtain ⟨later, others, h⟩ := Option.bind_eq_some_iff.1 h
      cases h
      exact List.forall_mem_cons.2 ⟨ipv6Piece?_lt read, ih others⟩

/-- The pieces of a part of an address. -/
def ipv6Part? (part : List Char) : Option (List Nat) :=
  if part = [] then some [] else ipv6Pieces? (part.splitOn ':')

lemma ipv6?_of_whole (h : splitDoubleColon? cs = none) :
    ipv6? cs = (ipv6Part? cs).filter (·.length == 8) := by
  rw [ipv6?, h]
  rfl

lemma ipv6?_of_shortened {left right : List Char}
    (h : splitDoubleColon? cs = some (left, right)) :
    ipv6? cs = if left.contains '.' then none else
      (ipv6Part? left).bind fun front => (ipv6Part? right).bind fun back =>
        if front.length + back.length ≤ 7 then
          some (front ++ List.replicate (8 - (front.length + back.length)) 0 ++ back)
        else none := by
  rw [ipv6?, h]
  dsimp only
  by_cases dot : left.contains '.' = true
  · rw [if_pos dot, if_pos dot]
    rfl
  · rw [if_neg dot, if_neg dot]
    rfl

lemma ipv6Part?_lt (h : ipv6Part? cs = some ps) : ∀ p ∈ ps, p < 65536 := by
  rw [ipv6Part?] at h
  split_ifs at h
  · cases h
    exact List.forall_mem_nil _
  · exact ipv6Pieces?_lt h

/-- Eight pieces are read, each of two bytes. -/
lemma ipv6?_eq_some (h : ipv6? cs = some ps) : ps.length = 8 ∧ ∀ p ∈ ps, p < 65536 := by
  cases cut : splitDoubleColon? cs with
  | none =>
    rw [ipv6?_of_whole cut] at h
    obtain ⟨read, eight⟩ := Option.filter_eq_some_iff.1 h
    exact ⟨by simpa using eight, ipv6Part?_lt read⟩
  | some parts =>
    obtain ⟨left, right⟩ := parts
    rw [ipv6?_of_shortened cut] at h
    split_ifs at h
    obtain ⟨front, read, h⟩ := Option.bind_eq_some_iff.1 h
    obtain ⟨back, read', h⟩ := Option.bind_eq_some_iff.1 h
    split_ifs at h with few
    cases h
    constructor
    · simp
      omega
    · intro p hp
      rw [List.mem_append, List.mem_append] at hp
      rcases hp with (hp | zero) | hp
      · exact ipv6Part?_lt read p hp
      · rw [List.eq_of_mem_replicate zero]
        decide
      · exact ipv6Part?_lt read' p hp

/-! ### What is written -/

lemma hexDigit?_digitChar {d : Nat} (h : d < 16) : hexDigit? d.digitChar = some d := by
  decide +revert

lemma hexValue?_toDigits (n : Nat) : hexValue? 0 (Nat.toDigits 16 n) = some n := by
  induction n using Nat.strong_induction_on with
  | h n ih =>
    by_cases small : n < 16
    · rw [Nat.toDigits_of_lt_base small]
      simp [hexValue?, hexDigit?_digitChar small]
    · have digit : n % 16 < 16 := Nat.mod_lt n (by decide)
      have front := ih (n / 16) (by omega)
      rw [hexValue?] at front
      rw [Nat.toDigits_of_base_le (by decide) (Nat.not_lt.1 small), hexValue?,
        List.foldlM_append, front]
      simp [hexDigit?_digitChar digit, Nat.div_add_mod]

lemma ipv6Piece?_toDigits (h : n < 65536) : ipv6Piece? (Nat.toDigits 16 n) = some n := by
  have short : (Nat.toDigits 16 n).length ≤ 4 :=
    (Nat.length_toDigits_le_iff (by decide) (by decide)).2 h
  rw [ipv6Piece?, if_neg]
  · exact hexValue?_toDigits n
  · rw [not_or, Nat.not_lt]
    exact ⟨Nat.toDigits_ne_nil, short⟩

lemma not_mem_toDigits {m : Char} (hm : ∀ d < 16, d.digitChar ≠ m) (n : Nat) :
    m ∉ Nat.toDigits 16 n := by
  induction n using Nat.strong_induction_on with
  | h n ih =>
    by_cases small : n < 16
    · rw [Nat.toDigits_of_lt_base small, List.mem_singleton]
      exact (hm n small).symm
    · rw [Nat.toDigits_of_base_le (by decide) (Nat.not_lt.1 small), List.mem_append,
        List.mem_singleton, not_or]
      exact ⟨ih _ (by omega), (hm _ (Nat.mod_lt n (by decide))).symm⟩

lemma colon_not_mem_toDigits (n : Nat) : ':' ∉ Nat.toDigits 16 n :=
  not_mem_toDigits (by decide) n

lemma ipv6Pieces?_toDigits (h : ∀ p ∈ ps, p < 65536) :
    ipv6Pieces? (ps.map (Nat.toDigits 16)) = some ps := by
  induction ps with
  | nil => rfl
  | cons p ps ih =>
    obtain ⟨first, others⟩ := List.forall_mem_cons.1 h
    rw [List.map_cons]
    cases ps with
    | nil =>
      have plain : (Nat.toDigits 16 p).contains '.' = false := by
        simpa using not_mem_toDigits (m := '.') (by decide) p
      show ipv6Tail? (Nat.toDigits 16 p) = some [p]
      rw [ipv6Tail?, plain, ipv6Piece?_toDigits first]
      rfl
    | cons q ps =>
      rw [ipv6Pieces?_cons (by simp), ipv6Piece?_toDigits first, ih others]
      rfl

lemma ipv6Join_ne_nil (h : ps ≠ []) : ipv6Join ps ≠ [] := by
  obtain ⟨p, ps, rfl⟩ := List.exists_cons_of_ne_nil h
  intro empty
  have digit := List.exists_mem_of_ne_nil _ (Nat.toDigits_ne_nil (b := 16) (n := p))
  obtain ⟨c, hc⟩ := digit
  have inside : c ∈ ipv6Join (p :: ps) :=
    mem_intercalate (List.mem_map_of_mem List.mem_cons_self) hc
  rw [empty] at inside
  cases inside

lemma not_mem_ipv6Join {m : Char} (hm : ∀ d < 16, d.digitChar ≠ m) (colon : ':' ≠ m)
    (ps : List Nat) : m ∉ ipv6Join ps := by
  have other : ∀ c ∈ ipv6Join ps, c ≠ m := by
    apply forall_mem_intercalate (p := (· ≠ m)) (List.forall_mem_singleton.2 colon)
    rw [List.forall_mem_map]
    rintro n - c hc rfl
    exact not_mem_toDigits hm n hc
  exact fun hc => other m hc rfl

lemma ipv6Part?_join (h : ∀ p ∈ ps, p < 65536) : ipv6Part? (ipv6Join ps) = some ps := by
  by_cases none : ps = []
  · subst none
    rfl
  · have pieces : (ipv6Join ps).splitOn ':' = ps.map (Nat.toDigits 16) := by
      apply List.splitOn_intercalate
      · rw [List.forall_mem_map]
        exact fun n _ => colon_not_mem_toDigits n
      · simpa using none
    rw [ipv6Part?, if_neg (ipv6Join_ne_nil none), pieces, ipv6Pieces?_toDigits h]

/-! ### The double colon -/

lemma splitDoubleColon?_append {front : List Char} (h : ':' ∉ front) (cs : List Char) :
    splitDoubleColon? (front ++ cs) =
      (splitDoubleColon? cs).map fun parts => (front ++ parts.1, parts.2) := by
  induction front with
  | nil => simp
  | cons c front ih =>
    rw [List.mem_cons, not_or] at h
    rw [List.cons_append, splitDoubleColon?, ih h.2, Option.map_map]
    · rfl
    · rintro rest rfl
      exact absurd rfl h.1

lemma splitDoubleColon?_colon (h : cs.head? ≠ some ':') :
    splitDoubleColon? (':' :: cs) =
      (splitDoubleColon? cs).map fun parts => (':' :: parts.1, parts.2) := by
  rw [splitDoubleColon?]
  rintro rest - rfl
  exact h rfl

lemma ipv6Join_cons_cons (p q : Nat) (ps : List Nat) :
    ipv6Join (p :: q :: ps) = Nat.toDigits 16 p ++ ':' :: ipv6Join (q :: ps) := by
  rw [ipv6Join, List.map_cons, List.map_cons, List.intercalate_cons_cons, List.append_assoc]
  rfl

lemma head?_ipv6Join (p : Nat) (ps : List Nat) (cs : List Char) :
    (ipv6Join (p :: ps) ++ cs).head? ≠ some ':' := by
  obtain ⟨c, front, digits⟩ := List.exists_cons_of_ne_nil (Nat.toDigits_ne_nil (b := 16) (n := p))
  have other : c ≠ ':' := by
    rintro rfl
    exact colon_not_mem_toDigits p (digits ▸ List.mem_cons_self)
  have first : ∃ rest, ipv6Join (p :: ps) = c :: rest := by
    cases ps with
    | nil => exact ⟨front, by simpa [ipv6Join, List.intercalate] using digits⟩
    | cons q ps => exact ⟨_, by rw [ipv6Join_cons_cons, digits, List.cons_append]⟩
  obtain ⟨rest, whole⟩ := first
  rw [whole]
  simpa using other

/-- No double colon stands between pieces. -/
lemma splitDoubleColon?_join (ps : List Nat) (cs : List Char) :
    splitDoubleColon? (ipv6Join ps ++ cs) =
      (splitDoubleColon? cs).map fun parts => (ipv6Join ps ++ parts.1, parts.2) := by
  induction ps with
  | nil => simp [ipv6Join, List.intercalate]
  | cons p ps ih =>
    cases ps with
    | nil =>
      have single : ipv6Join [p] = Nat.toDigits 16 p := by simp [ipv6Join, List.intercalate]
      rw [single, splitDoubleColon?_append (colon_not_mem_toDigits p)]
    | cons q ps =>
      rw [ipv6Join_cons_cons, List.append_assoc, List.cons_append,
        splitDoubleColon?_append (colon_not_mem_toDigits p),
        splitDoubleColon?_colon (head?_ipv6Join q ps cs), ih]
      cases splitDoubleColon? cs <;> simp

/-! ### Runs of zeros -/

lemma takeWhile_zero (ps : List Nat) :
    ps.takeWhile (· == 0) = List.replicate (zeroRun ps) 0 := by
  rw [zeroRun, List.eq_replicate_iff]
  refine ⟨rfl, fun p hp => ?_⟩
  simpa using List.all_eq_true.1 List.all_takeWhile p hp

/-- The longest run of zeros stands where it is said to stand. -/
lemma exists_longestZeroRun (start : Nat) (h : (longestZeroRun start ps).2 ≠ 0) :
    ∃ front back, ps = front ++ List.replicate (longestZeroRun start ps).2 0 ++ back ∧
      (longestZeroRun start ps).1 = start + front.length := by
  induction ps generalizing start with
  | nil => exact absurd rfl h
  | cons p ps ih =>
    rw [longestZeroRun] at h ⊢
    split_ifs at h ⊢ with here
    · refine ⟨[], (p :: ps).dropWhile (· == 0), ?_, rfl⟩
      rw [List.nil_append, ← takeWhile_zero, List.takeWhile_append_dropWhile]
    · obtain ⟨front, back, whole, place⟩ := ih (start + 1) h
      refine ⟨p :: front, back, ?_, ?_⟩
      · rw [List.cons_append, List.cons_append, ← whole]
      · rw [place, List.length_cons]
        omega

/-! ### Reading an address again -/

/-- The text of an address between its brackets. -/
def ipv6Body (ps : List Nat) : List Char :=
  let (start, length) := longestZeroRun 0 ps
  if length < 2 then ipv6Join ps
  else ipv6Join (ps.take start) ++ [':', ':'] ++ ipv6Join (ps.drop (start + length))

lemma not_mem_ipv6Body {m : Char} (hm : ∀ d < 16, d.digitChar ≠ m) (colon : ':' ≠ m)
    (ps : List Nat) : m ∉ ipv6Body ps := by
  rw [ipv6Body]
  split
  split_ifs <;> simp [not_mem_ipv6Join hm colon, colon.symm]

lemma ipv6Text_eq (ps : List Nat) : ipv6Text ps = '[' :: ipv6Body ps ++ [']'] :=
  rfl

/-- Eight pieces are read back. -/
lemma ipv6?_ipv6Body (eight : ps.length = 8) (small : ∀ p ∈ ps, p < 65536) :
    ipv6? (ipv6Body ps) = some ps := by
  rw [ipv6Body]
  have run := @exists_longestZeroRun ps 0
  generalize longestZeroRun 0 ps = zeros at run
  obtain ⟨start, length⟩ := zeros
  dsimp only at run ⊢
  split_ifs with short
  · have whole : splitDoubleColon? (ipv6Join ps) = none := by
      have join := splitDoubleColon?_join ps []
      rwa [List.append_nil] at join
    rw [ipv6?_of_whole whole, ipv6Part?_join small]
    simp [eight]
  -- the pieces are those around the run of zeros that is left out
  · obtain ⟨front, back, rfl, place⟩ := run (by omega)
    rw [Nat.zero_add] at place
    subst place
    simp only [List.forall_mem_append] at small
    simp only [List.length_append, List.length_replicate] at eight
    have left : (front ++ List.replicate length 0 ++ back).take front.length = front := by
      rw [List.append_assoc, List.take_left]
    have right : (front ++ List.replicate length 0 ++ back).drop (front.length + length) =
        back := by
      rw [List.drop_left']
      simp
    have cut : splitDoubleColon? (ipv6Join front ++ [':', ':'] ++ ipv6Join back) =
        some (ipv6Join front, ipv6Join back) := by
      rw [List.append_assoc, splitDoubleColon?_join]
      simp [splitDoubleColon?]
    have plain : (ipv6Join front).contains '.' = false := by
      simpa using not_mem_ipv6Join (m := '.') (by decide) (by decide) front
    have few : front.length + back.length ≤ 7 := by omega
    have zeros : 8 - (front.length + back.length) = length := by omega
    rw [left, right, ipv6?_of_shortened cut, plain, if_neg Bool.false_ne_true,
      ipv6Part?_join small.1.1, ipv6Part?_join small.2, Option.bind_some, Option.bind_some,
      if_pos few, zeros]

/-- The host in brackets is read again. -/
theorem bracketedHost_reread {host : List Char} (h : bracketedHost cs = .ok host) :
    bracketedHost host = .ok host := by
  rw [bracketedHost] at h
  split_ifs at h
  split at h
  · rename_i ps read
    cases h
    obtain ⟨eight, small⟩ := ipv6?_eq_some read
    have inside : ((ipv6Text ps).drop 1).dropLast = ipv6Body ps := by
      rw [ipv6Text_eq]
      simp
    have closed : (ipv6Text ps).getLast? = some ']' ∧ 2 ≤ (ipv6Text ps).length := by
      rw [ipv6Text_eq, List.getLast?_concat]
      simp
    rw [bracketedHost, inside, ipv6?_ipv6Body eight small, if_pos closed]
  · cases h

end NestedTx.Url
