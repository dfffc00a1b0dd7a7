import Mathlib.Tactic.Common
import NestedTx.Url.Host

/-!
# Hosts with an at sign

No host of a special scheme has an `@` in it, however it is written: what is taken for a host and
has one is refused, and why does not depend on what else is in it.
-/

namespace NestedTx.Url

open Text

variable {α β : Type}

/-! ### Pieces between separators -/

/-- What is not the separator is in one of the pieces. -/
lemma exists_mem_splitOn {c s : Char} {cs : List Char} (hc : c ∈ cs) (hs : c ≠ s) :
    ∃ part ∈ cs.splitOn s, c ∈ part := by
  have joined : c ∈ [s].intercalate (cs.splitOn s) := by
    rwa [List.intercalate_splitOn]
  generalize cs.splitOn s = parts at joined
  induction parts with
  | nil => cases joined
  | cons part rest ih =>
    cases rest with
    | nil => exact ⟨part, List.mem_cons_self, by simpa [List.intercalate] using joined⟩
    | cons next rest =>
      rw [List.intercalate_cons_cons, List.mem_append, List.mem_append] at joined
      rcases joined with (first | separator) | later
      · exact ⟨part, List.mem_cons_self, first⟩
      · exact absurd (List.mem_singleton.1 separator) hs
      · obtain ⟨found, hf, hc⟩ := ih later
        exact ⟨found, List.mem_cons_of_mem _ hf, hc⟩

/-- Every piece is in the whole. -/
lemma mem_intercalate {c : Char} {sep part : List Char} {parts : List (List Char)}
    (hp : part ∈ parts) (hc : c ∈ part) : c ∈ List.intercalate sep parts := by
  induction parts with
  | nil => cases hp
  | cons first rest ih =>
    cases rest with
    | nil =>
      rw [List.mem_singleton.1 hp] at hc
      simpa [List.intercalate] using hc
    | cons next rest =>
      rw [List.intercalate_cons_cons, List.mem_append, List.mem_append]
      rcases List.mem_cons.1 hp with rfl | hp
      · exact Or.inl (Or.inl hc)
      · exact Or.inr (ih hp)

/-- What holds of the separator and of all pieces holds of the whole. -/
lemma forall_mem_intercalate {p : Char → Prop} {sep : List Char} {parts : List (List Char)}
    (hs : ∀ c ∈ sep, p c) (h : ∀ part ∈ parts, ∀ c ∈ part, p c) :
    ∀ c ∈ List.intercalate sep parts, p c := by
  induction parts with
  | nil => exact List.forall_mem_nil _
  | cons first rest ih =>
    obtain ⟨own, others⟩ := List.forall_mem_cons.1 h
    cases rest with
    | nil => simpa [List.intercalate] using own
    | cons next rest =>
      rw [List.intercalate_cons_cons, List.forall_mem_append, List.forall_mem_append]
      exact ⟨⟨own, hs⟩, ih others⟩

/-- Every element of a list that has an image has one that is in it. -/
lemma exists_mem_of_mapM_eq_some {f : α → Option β} {l : List α} {r : List β} {a : α}
    (hr : l.mapM f = some r) (ha : a ∈ l) : ∃ b ∈ r, f a = some b := by
  induction l generalizing r with
  | nil => cases ha
  | cons x l ih =>
    rw [List.mapM_cons] at hr
    obtain ⟨y, hy, hr⟩ := Option.bind_eq_some_iff.1 hr
    obtain ⟨ys, hys, hr⟩ := Option.bind_eq_some_iff.1 hr
    cases hr
    rcases List.mem_cons.1 ha with rfl | ha
    · exact ⟨y, List.mem_cons_self, hy⟩
    · obtain ⟨b, hb, hf⟩ := ih hys ha
      exact ⟨b, List.mem_cons_of_mem _ hb, hf⟩

lemma mapM_eq_none {f : α → Option β} {l : List α} {a : α} (ha : a ∈ l) (h : f a = none) :
    l.mapM f = none := by
  cases hr : l.mapM f with
  | none => rfl
  | some r =>
    obtain ⟨b, -, hf⟩ := exists_mem_of_mapM_eq_some hr ha
    rw [h] at hf
    cases hf

/-- A fold that cannot go past an element fails. -/
lemma foldlM_eq_none {f : β → α → Option β} {l : List α} {a : α} (ha : a ∈ l)
    (h : ∀ b, f b a = none) (b : β) : l.foldlM f b = none := by
  induction l generalizing b with
  | nil => cases ha
  | cons x l ih =>
    rw [List.foldlM_cons]
    rcases List.mem_cons.1 ha with rfl | ha
    · rw [h]
      rfl
    · cases hx : f b x with
      | none => rfl
      | some b' => exact ih ha b'

/-! ### Addresses in brackets -/

lemma ipv6Piece?_at {cs : List Char} (h : '@' ∈ cs) : ipv6Piece? cs = none := by
  rw [ipv6Piece?]
  split_ifs
  · rfl
  · exact foldlM_eq_none h (fun _ => rfl) 0

lemma ipv4Byte?_at {cs : List Char} (h : '@' ∈ cs) : ipv4Byte? cs = none := by
  have digits : cs.foldlM (fun acc c => (digit? c).map (10 * acc + ·)) 0 = none :=
    foldlM_eq_none h (fun _ => rfl) 0
  rw [ipv4Byte?, digits]
  split_ifs <;> rfl

lemma ipv6Tail?_at {cs : List Char} (h : '@' ∈ cs) : ipv6Tail? cs = none := by
  rw [ipv6Tail?]
  split_ifs
  · obtain ⟨part, hp, hc⟩ := exists_mem_splitOn h (by decide : '@' ≠ '.')
    rw [mapM_eq_none hp (ipv4Byte?_at hc)]
    rfl
  · rw [ipv6Piece?_at h]
    rfl

lemma ipv6Pieces?_at {parts : List (List Char)} {part : List Char} (hp : part ∈ parts)
    (h : '@' ∈ part) : ipv6Pieces? parts = none := by
  induction parts with
  | nil => cases hp
  | cons first rest ih =>
    cases rest with
    | nil =>
      rw [List.mem_singleton.1 hp] at h
      exact ipv6Tail?_at h
    | cons next rest =>
      rw [ipv6Pieces?]
      · rcases List.mem_cons.1 hp with rfl | hp
        · rw [ipv6Piece?_at h]
          rfl
        · rw [ih hp]
          cases ipv6Piece? first <;> rfl
      · nofun

lemma splitDoubleColon?_eq_some {cs left right : List Char}
    (h : splitDoubleColon? cs = some (left, right)) : cs = left ++ ':' :: ':' :: right := by
  fun_induction splitDoubleColon? cs generalizing left with
  | case1 rest =>
    cases h
    rfl
  | case2 c rest _ ih =>
    obtain ⟨⟨a, b⟩, found, hab⟩ := Option.map_eq_some_iff.1 h
    cases hab
    rw [ih found]
    rfl
  | case3 => cases h

/-- No address has an `@`. -/
lemma ipv6?_at {cs : List Char} (h : '@' ∈ cs) : ipv6? cs = none := by
  have pieces {part : List Char} (hp : '@' ∈ part) :
      (if part = [] then some [] else ipv6Pieces? (part.splitOn ':')) = none := by
    obtain ⟨piece, hm, hc⟩ := exists_mem_splitOn hp (by decide : '@' ≠ ':')
    rw [if_neg (List.ne_nil_of_mem hp), ipv6Pieces?_at hm hc]
  rw [ipv6?]
  cases hs : splitDoubleColon? cs with
  | none =>
    simp only [pieces h]
    rfl
  | some parts =>
    obtain ⟨left, right⟩ := parts
    rw [splitDoubleColon?_eq_some hs, List.mem_append] at h
    rcases h with h | h
    · simp only [pieces h, ite_self]
      rfl
    · have hr : '@' ∈ right := by simpa using h
      simp only [pieces hr]
      split_ifs
      · rfl
      · rfl
      · cases ipv6Pieces? (left.splitOn ':') <;> rfl

lemma bracketedHost_at {cs : List Char} (hb : cs.head? = some '[') (h : '@' ∈ cs) :
    bracketedHost cs = .error .invalidIpv6Address := by
  obtain ⟨rest, rfl⟩ := List.head?_eq_some_iff.1 hb
  rw [bracketedHost]
  split_ifs with closed
  · have inner : '@' ∈ rest.dropLast := by
      have hr : '@' ∈ rest := by simpa using h
      have last : rest.getLast? = some ']' := by
        rw [← List.getLast?_cons_of_ne_nil (List.ne_nil_of_mem hr)]
        exact closed.1
      obtain ⟨inner, rfl⟩ := List.getLast?_eq_some_iff.1 last
      simpa using hr
    rw [List.drop_succ_cons, List.drop_zero, ipv6?_at inner]
  · rfl

/-! ### Domain names -/

/-- Percent-decoding keeps an `@`, which is no digit. -/
lemma mem_percentDecode_at {bs : List UInt8} (h : 0x40 ∈ bs) : 0x40 ∈ percentDecode bs := by
  fun_induction percentDecode bs with
  | case1 first second rest hi lo hlo hhi ih =>
    rcases List.mem_cons.1 h with h | h
    · cases h
    rcases List.mem_cons.1 h with rfl | h
    · cases hhi
    rcases List.mem_cons.1 h with rfl | h
    · cases hlo
    exact List.mem_cons_of_mem _ (ih h)
  | case2 first second rest _ ih =>
    rcases List.mem_cons.1 h with h | h
    · cases h
    · exact List.mem_cons_of_mem _ (ih h)
  | case3 b rest _ ih =>
    rcases List.mem_cons.1 h with h | h
    · exact h ▸ List.mem_cons_self
    · exact List.mem_cons_of_mem _ (ih h)
  | case4 => cases h

/-- Only bytes of at least `low` continue a character, which an `@` never does. -/
lemma mem_utf8Continue_at {low : UInt8} (hl : 0x80 ≤ low) {bs : List UInt8} (h : 0x40 ∈ bs)
    (value : Nat) (high : UInt8) (n : Nat) : 0x40 ∈ (utf8Continue value low high n bs).2 := by
  induction n generalizing value low high bs with
  | zero => exact h
  | succ n ih =>
    cases bs with
    | nil => cases h
    | cons b bs =>
      rw [utf8Continue]
      split_ifs with fits
      · apply ih (UInt8.le_refl _)
        rcases List.mem_cons.1 h with rfl | h
        · rw [Bool.and_eq_true, decide_eq_true_iff] at fits
          exact absurd (UInt8.le_trans hl fits.1) (by decide)
        · exact h
      · exact h

lemma leadByte?_low {b low high : UInt8} {n : Nat} (h : leadByte? b = some (n, low, high)) :
    0x80 ≤ low := by
  rw [leadByte?] at h
  split_ifs at h <;> cases h <;> decide

lemma mem_utf8Step_at {b : UInt8} {bs : List UInt8} (h : 0x40 ∈ bs) : 0x40 ∈ (utf8Step b bs).2 := by
  rw [utf8Step]
  split
  · exact h
  · rename_i lead
    exact mem_utf8Continue_at (leadByte?_low lead) h _ _ _

lemma mem_utf8Decode?_at {bs : List UInt8} {cs : List Char} (hd : utf8Decode? bs = some cs)
    (h : 0x40 ∈ bs) : '@' ∈ cs := by
  fun_induction utf8Decode? bs generalizing cs with
  | case1 => cases h
  | case2 b bs _ hs => cases hd
  | case3 b bs c rest hs _ ih =>
    obtain ⟨others, decoded, rfl⟩ := Option.map_eq_some_iff.1 hd
    rcases List.mem_cons.1 h with rfl | h
    · cases hs
      exact List.mem_cons_self
    · have later : 0x40 ∈ rest := by
        have kept := mem_utf8Step_at (b := b) h
        rwa [hs] at kept
      exact List.mem_cons_of_mem _ (ih decoded later)

/-- What is written stays written. -/
lemma mem_written_visit {c d x : Char} {e : Punycode.Encoding} (h : x ∈ e.written) :
    x ∈ (e.visit c d).written := by
  rw [Punycode.Encoding.visit]
  split_ifs
  · exact h
  · exact List.mem_append_left _ h
  · exact h

lemma mem_written_foldl {c x : Char} {text : List Char} {e : Punycode.Encoding}
    (h : x ∈ e.written) : x ∈ (text.foldl (Punycode.Encoding.visit c) e).written := by
  induction text generalizing e with
  | nil => exact h
  | cons d text ih => exact ih (mem_written_visit h)

lemma mem_written_all {x : Char} {text cs : List Char} {next : Nat} {e : Punycode.Encoding}
    (h : x ∈ e.written) : x ∈ (Punycode.Encoding.all text next e cs).written := by
  induction cs generalizing next e with
  | nil => exact h
  | cons c cs ih =>
    rw [Punycode.Encoding.all]
    exact ih (mem_written_foldl h)

/-- Punycode begins with the characters in ASCII. -/
lemma mem_encode_at {cs : List Char} (h : '@' ∈ cs) : '@' ∈ Punycode.encode cs := by
  have basic : '@' ∈ cs.filter Punycode.isAscii := List.mem_filter.2 ⟨h, by decide⟩
  apply mem_written_all
  show '@' ∈ if cs.filter Punycode.isAscii = [] then [] else cs.filter Punycode.isAscii ++ ['-']
  rw [if_neg (List.ne_nil_of_mem basic)]
  exact List.mem_append_left _ basic

lemma mem_asciiLabel?_at {cs label : List Char} (hl : asciiLabel? cs = some label) (h : '@' ∈ cs) :
    '@' ∈ label := by
  rw [asciiLabel?] at hl
  split at hl
  · obtain ⟨decoded, -, kept⟩ := Option.bind_eq_some_iff.1 hl
    split_ifs at kept
    cases kept
    exact h
  · split_ifs at hl
    · cases hl
      exact h
    · cases hl
      exact List.mem_append_right _ (mem_encode_at h)

lemma mem_asciiDomain?_at {cs domain : List Char} (hd : asciiDomain? cs = some domain)
    (h : '@' ∈ cs) : '@' ∈ domain := by
  obtain ⟨labels, read, joined⟩ := Option.bind_eq_some_iff.1 hd
  cases joined
  have mapped : '@' ∈ cs.flatMap domainChar := List.mem_flatMap.2 ⟨'@', h, by decide⟩
  obtain ⟨part, hp, hc⟩ := exists_mem_splitOn mapped (by decide : '@' ≠ '.')
  obtain ⟨label, hl, found⟩ := exists_mem_of_mapM_eq_some read hp
  exact mem_intercalate hl (mem_asciiLabel?_at found hc)

/-- Whatever is decoded, there is an `@` in it, which may not stand in a domain. -/
lemma domainName_at {cs : List Char} (h : '@' ∈ cs) :
    domainName cs = .error .invalidDomainName := by
  rw [domainName]
  cases hd : (utf8Decode? (percentDecode (utf8 cs))).bind asciiDomain? with
  | none => rfl
  | some domain =>
    obtain ⟨decoded, read, written⟩ := Option.bind_eq_some_iff.1 hd
    have bytes : 0x40 ∈ utf8 cs := List.mem_flatMap.2 ⟨'@', h, by decide⟩
    have at_mem :=
      mem_asciiDomain?_at written (mem_utf8Decode?_at read (mem_percentDecode_at bytes))
    have forbidden : domain.any isForbiddenInDomain = true :=
      List.any_eq_true.2 ⟨'@', at_mem, by decide⟩
    simp only [forbidden, if_true]

/-- A host with an `@` is refused. -/
lemma domainHost_at {cs : List Char} (h : '@' ∈ cs) :
    domainHost cs =
      .error (if cs.head? = some '[' then .invalidIpv6Address else .invalidDomainName) := by
  rw [domainHost]
  split_ifs with hb
  · exact bracketedHost_at hb h
  · exact domainName_at h

end NestedTx.Url
