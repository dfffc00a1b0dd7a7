import NestedTx.Proofs.Url.Password

/-!
# URLs as they are written around a password

Blanks around a URL and line breaks in it do not count. Between what is written in front of a
password and behind it, the password can be changed, and nothing else that is read changes. Every
URL that is read with a password is written in this way.
-/

namespace NestedTx.Url

open Text

/-! ### The text that counts -/

/-- Does the character count inside a text? -/
def counts (c : Char) : Bool :=
  !(c == '\t' || c == '\n' || c == '\r')

/-- Does the character count at neither end of a text? -/
def isOuterBlank (c : Char) : Bool :=
  c.toNat ≤ 0x20

/-- What counts of the front of a text. -/
def significantFront (cs : List Char) : List Char :=
  (cs.dropWhile isOuterBlank).filter counts

/-- What counts of the back of a text. -/
def significantBack (cs : List Char) : List Char :=
  (cs.reverse.dropWhile isOuterBlank).reverse.filter counts

lemma significantFront_append {front : List Char} (h : significantFront front ≠ [])
    (more : List Char) :
    significantFront (front ++ more) = significantFront front ++ more.filter counts := by
  have front_ne : front.dropWhile isOuterBlank ≠ [] := by
    intro empty
    rw [significantFront, empty] at h
    exact h rfl
  rw [significantFront, List.dropWhile_append, List.isEmpty_eq_false_iff.2 front_ne,
    if_neg Bool.false_ne_true, List.filter_append]
  rfl

lemma mem_significantFront {c : Char} {cs : List Char} (h : c ∈ cs) (hc : counts c = true)
    (hb : isOuterBlank c = false) : c ∈ significantFront cs := by
  rw [← List.takeWhile_append_dropWhile (p := isOuterBlank) (l := cs), List.mem_append] at h
  rcases h with blank | h
  · rw [List.all_eq_true.1 List.all_takeWhile c blank] at hb
    cases hb
  · exact List.mem_filter.2 ⟨h, hc⟩

lemma mem_of_mem_significantFront {c : Char} {cs : List Char} (h : c ∈ significantFront cs) :
    c ∈ cs :=
  (List.dropWhile_suffix _).subset (List.mem_filter.1 h).1

lemma significant_append {front back : List Char} (middle : List Char)
    (hf : significantFront front ≠ []) (hb : significantBack back ≠ []) :
    significant (front ++ middle ++ back) =
      significantFront front ++ middle.filter counts ++ significantBack back := by
  have front_ne : front.dropWhile isOuterBlank ≠ [] := by
    intro h
    rw [significantFront, h] at hf
    exact hf rfl
  have back_ne : back.reverse.dropWhile isOuterBlank ≠ [] := by
    intro h
    rw [significantBack, h] at hb
    exact hb rfl
  have trimmed : trimWhere isOuterBlank (front ++ middle ++ back) =
      front.dropWhile isOuterBlank ++ middle ++ (back.reverse.dropWhile isOuterBlank).reverse := by
    rw [trimWhere, List.append_assoc, List.dropWhile_append, List.isEmpty_eq_false_iff.2 front_ne,
      if_neg Bool.false_ne_true, ← List.append_assoc, List.reverse_append, List.dropWhile_append,
      List.isEmpty_eq_false_iff.2 back_ne, if_neg Bool.false_ne_true, List.reverse_append,
      List.reverse_reverse]
  show (trimWhere isOuterBlank (front ++ middle ++ back)).filter counts = _
  rw [trimmed, List.filter_append, List.filter_append]
  rfl

/-- The front of what is left is left if only the front is there. -/
lemma dropWhile_takeWhile_append {p : Char → Bool} {cs front rest : List Char}
    (h : cs.dropWhile p = front ++ rest) (hf : front ≠ []) :
    (cs.takeWhile p ++ front).dropWhile p = front := by
  rw [List.dropWhile_append_of_pos (List.all_eq_true.1 List.all_takeWhile)]
  cases front with
  | nil => exact absurd rfl hf
  | cons c front =>
    have first := List.head?_dropWhile_not p cs
    rw [h] at first
    exact List.dropWhile_cons_of_neg (by simpa using first)

/-- A text is cut where what counts of it is cut. -/
lemma exists_significant_append {cs front middle back : List Char}
    (h : significant cs = front ++ middle ++ back) (hf : front ≠ []) (hb : back ≠ []) :
    ∃ before inside after, cs = before ++ inside ++ after ∧ significantFront before = front ∧
      inside.filter counts = middle ∧ significantBack after = back := by
  change (trimWhere isOuterBlank cs).filter counts = _ at h
  obtain ⟨rest, z, core, filtered, rfl⟩ := List.filter_eq_append_iff.1 h
  obtain ⟨x, y, rfl, rfl, rfl⟩ := List.filter_eq_append_iff.1 filtered
  have left : x ≠ [] := by
    rintro rfl
    exact hf rfl
  have right : z.reverse ≠ [] := by
    rw [List.reverse_ne_nil_iff]
    rintro rfl
    exact hb rfl
  -- what is trimmed at the back, and then what is trimmed at the front
  have last : (cs.dropWhile isOuterBlank).reverse.dropWhile isOuterBlank =
      z.reverse ++ (x ++ y).reverse := by
    rw [← List.reverse_append, ← core, trimWhere, List.reverse_reverse]
  generalize ht : (cs.dropWhile isOuterBlank).reverse.takeWhile isOuterBlank = trail at *
  have first : cs.dropWhile isOuterBlank = x ++ (y ++ z ++ trail.reverse) := by
    have whole := List.takeWhile_append_dropWhile (p := isOuterBlank)
      (l := (cs.dropWhile isOuterBlank).reverse)
    rw [ht, last] at whole
    rw [← List.reverse_reverse (cs.dropWhile isOuterBlank), ← whole]
    simp
  refine ⟨cs.takeWhile isOuterBlank ++ x, y, z ++ trail.reverse, ?_, ?_, rfl, ?_⟩
  · calc cs = cs.takeWhile isOuterBlank ++ cs.dropWhile isOuterBlank :=
          List.takeWhile_append_dropWhile.symm
      _ = cs.takeWhile isOuterBlank ++ x ++ y ++ (z ++ trail.reverse) := by
        rw [first]
        simp
  · rw [significantFront, dropWhile_takeWhile_append first left]
  · rw [significantBack, List.reverse_append, List.reverse_reverse, ← ht,
      dropWhile_takeWhile_append last right, List.reverse_reverse]

/-! ### Schemes and surroundings -/

variable {scheme p q : List Char}

/-- A scheme is read up to the first colon. -/
lemma readScheme?_eq_some_iff {cs rest : List Char} :
    readScheme? cs = some (scheme, rest) ↔
      ∃ word, cs = word ++ ':' :: rest ∧ word.head?.any Char.isAlpha = true ∧
        (∀ c ∈ word, inScheme c = true) ∧ scheme = lowercase word := by
  constructor
  · intro h
    cases cs with
    | nil => cases h
    | cons c cs =>
      rw [readScheme?] at h
      split_ifs at h with letter
      split at h
      · rename_i behind hd
        cases h
        have alpha : c.isAlpha = true := by simpa using letter
        have first : inScheme c = true := by simp [inScheme, Char.isAlphanum, alpha]
        refine ⟨(c :: cs).takeWhile inScheme, ?_, ?_, ?_, rfl⟩
        · rw [← hd, List.takeWhile_append_dropWhile]
        · rw [List.takeWhile_cons_of_pos first]
          exact alpha
        · exact List.all_eq_true.1 List.all_takeWhile
      · cases h
  · rintro ⟨word, rfl, letter, passed, rfl⟩
    cases word with
    | nil => cases letter
    | cons c word =>
      have isLetter : c.isAlpha = true := letter
      -- the colon ends the scheme, as no scheme holds one
      have stop : ¬inScheme ':' = true := by decide
      rw [List.cons_append, readScheme?, isLetter, ← List.cons_append,
        List.dropWhile_append_of_pos passed, List.takeWhile_append_of_pos passed,
        List.dropWhile_cons_of_neg stop, List.takeWhile_cons_of_neg stop, List.append_nil]
      rfl

/-- The scheme of a longer text. -/
lemma readScheme?_append {cs rest : List Char} (h : readScheme? cs = some (scheme, rest))
    (more : List Char) : readScheme? (cs ++ more) = some (scheme, rest ++ more) := by
  obtain ⟨word, rfl, letter, passed, lower⟩ := readScheme?_eq_some_iff.1 h
  exact readScheme?_eq_some_iff.2 ⟨word, by simp, letter, passed, lower⟩

/-- Letters only become letters. -/
lemma mem_of_mem_lowercase {m : Char} {cs : List Char} (hm : m.isLower = false)
    (h : m ∈ lowercase cs) : m ∈ cs := by
  obtain ⟨c, hc, lower⟩ := List.mem_map.1 h
  delta Char.toLower at lower
  split_ifs at lower with upper
  · have value : c.val + 32 = m.val := congrArg Char.val lower
    have low : 65 ≤ c.val := upper.1
    have high : c.val ≤ 90 := upper.2
    have outside : ¬(97 ≤ m.val ∧ m.val ≤ 122) := by
      intro inside
      delta Char.isLower at hm
      rw [Bool.and_eq_false_iff, decide_eq_false_iff_not, decide_eq_false_iff_not] at hm
      exact hm.elim (· inside.1) (· inside.2)
    grind
  · exact lower ▸ hc

lemma colon_not_mem_lowercase {cs : List Char} (h : ':' ∉ cs) : ':' ∉ lowercase cs :=
  fun colon => h (mem_of_mem_lowercase rfl colon)

lemma colon_not_mem_of_readScheme? {cs rest : List Char}
    (h : readScheme? cs = some (scheme, rest)) : ':' ∉ scheme := by
  obtain ⟨word, -, -, passed, rfl⟩ := readScheme?_eq_some_iff.1 h
  apply colon_not_mem_lowercase
  intro colon
  exact absurd (passed ':' colon) (by decide)

/-- A URL as it is written around a password. Blanks may stand around it and line breaks anywhere in
it. -/
structure Surroundings where
  front : List Char
  back : List Char
  scheme : List Char
  frame : Frame (schemeKind scheme)
  opened : readScheme? (significantFront front) =
    some (scheme, frame.slashes ++ frame.user ++ [':'])
  closed : significantBack back = '@' :: frame.host

namespace Surroundings

variable (w : Surroundings)

/-- Can the text stand as a password between the surroundings? Characters that do not count are
passed over. -/
def Holds (password : List Char) : Prop :=
  (schemeKind w.scheme).IsPassword (password.filter counts)

/-- A password as it is written into a URL. -/
def encoded (password : List Char) : List Char :=
  percentEncode inUserinfoSet (password.filter counts)

lemma significantFront_ne_nil : significantFront w.front ≠ [] := by
  intro h
  have opened := w.opened
  rw [h] at opened
  cases opened

/-- There is a colon in front of a password, and no `=` in front of that. -/
lemma exists_front :
    ∃ before rest, w.front = before ++ ':' :: rest ∧ ':' ∉ before ∧ '=' ∉ before := by
  obtain ⟨word, whole, -, passed, -⟩ := readScheme?_eq_some_iff.1 w.opened
  have colon : ':' ∈ w.front := mem_of_mem_significantFront (by simp [whole])
  obtain ⟨before, rest, front, first⟩ := List.eq_append_cons_of_mem colon
  refine ⟨before, rest, front, first, ?_⟩
  intro equals
  have kept : '=' ∈ significantFront before := mem_significantFront equals rfl rfl
  have same : significantFront before = word := by
    have early : ':' ∉ significantFront before := fun h => first (mem_of_mem_significantFront h)
    have late : ':' ∉ word := fun h => absurd (passed ':' h) (by decide)
    rw [front, significantFront_append (List.ne_nil_of_mem kept),
      List.filter_cons_of_pos (by decide)] at whole
    have split := congrArg (splitFirst? ':') whole
    rw [splitFirst?_append early, splitFirst?_append late, splitFirst?_cons_self,
      splitFirst?_cons_self] at split
    simpa using congrArg (Option.map Prod.fst) split
  rw [same] at kept
  exact absurd (passed '=' kept) (by decide)

lemma parse_eq {p : List Char} :
    parse (w.front ++ p ++ w.back) = readAfterScheme w.scheme (w.frame.fill (p.filter counts)) := by
  have front := w.significantFront_ne_nil
  have back : significantBack w.back ≠ [] := by
    rw [w.closed]
    exact List.cons_ne_nil _ _
  have scheme := readScheme?_append w.opened (p.filter counts ++ significantBack w.back)
  rw [parse, significant_append p front back, List.append_assoc, scheme, w.closed]
  simp [Frame.fill, Frame.userinfo]

/-- A URL with another password is the same URL with another password. -/
lemma parse_password (hp : w.Holds p) (hq : w.Holds q) :
    parse (w.front ++ q ++ w.back) =
      (parse (w.front ++ p ++ w.back)).map (withPassword (encoded q)) := by
  rw [w.parse_eq, w.parse_eq]
  exact readAfterScheme_password w.frame hp hq

end Surroundings

/-- Whatever is read with a password is written around it. -/
lemma exists_surroundings {cs : List Char} {url : Url} {a : Authority} (h : parse cs = .ok url)
    (ha : url.authority = some a) (hp : a.password.isSome = true) :
    ∃ (w : Surroundings) (p : List Char), w.Holds p ∧ cs = w.front ++ p ++ w.back := by
  rw [parse] at h
  cases hs : readScheme? (significant cs) with
  | none =>
    rw [hs] at h
    cases h
  | some parts =>
    obtain ⟨scheme, rest⟩ := parts
    rw [hs] at h
    obtain ⟨frame, p, password, rfl⟩ := exists_frame_of_readAfterScheme h ha hp
    obtain ⟨word, whole, letter, passed, lower⟩ := readScheme?_eq_some_iff.1 hs
    have cut : significant cs =
        (word ++ ':' :: (frame.slashes ++ frame.user ++ [':'])) ++ p ++ ('@' :: frame.host) := by
      rw [whole]
      simp [Frame.fill, Frame.userinfo]
    -- blanks and breaks may stand anywhere, and are given to the part that they stand in
    obtain ⟨front, inside, back, rfl, hfront, rfl, hback⟩ :=
      exists_significant_append cut (by simp) (by simp)
    have opened : readScheme? (significantFront front) =
        some (scheme, frame.slashes ++ frame.user ++ [':']) := by
      rw [hfront]
      exact readScheme?_eq_some_iff.2 ⟨word, rfl, letter, passed, lower⟩
    exact ⟨⟨front, back, scheme, frame, opened, hback⟩, inside, password, rfl⟩

end NestedTx.Url
