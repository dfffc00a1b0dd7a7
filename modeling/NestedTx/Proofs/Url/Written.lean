import NestedTx.Proofs.Text.Decimal
import NestedTx.Proofs.Url.Form
import NestedTx.Proofs.Url.Surroundings

/-!
# What URLs are written with

Every part of a URL that is read is encoded. In no part in front of the query there is a mark, and
only a path without structure has blanks in it.
-/

namespace NestedTx.Url

open Text

/-! ### Texts without marks -/

/-- There is neither a `?` nor a `#` in the text. -/
def Unmarked (cs : List Char) : Prop :=
  ∀ c ∈ cs, c ≠ '?' ∧ c ≠ '#'

lemma unmarked_iff {cs : List Char} : Unmarked cs ↔ '?' ∉ cs ∧ '#' ∉ cs := by
  constructor
  · intro h
    exact ⟨fun hc => (h _ hc).1 rfl, fun hc => (h _ hc).2 rfl⟩
  · rintro ⟨question, number⟩ c hc
    constructor
    · rintro rfl
      exact question hc
    · rintro rfl
      exact number hc

@[simp] lemma unmarked_nil : Unmarked [] :=
  List.forall_mem_nil _

@[simp] lemma unmarked_cons {c : Char} {cs : List Char} :
    Unmarked (c :: cs) ↔ (c ≠ '?' ∧ c ≠ '#') ∧ Unmarked cs :=
  List.forall_mem_cons

@[simp] lemma unmarked_append {front back : List Char} :
    Unmarked (front ++ back) ↔ Unmarked front ∧ Unmarked back :=
  List.forall_mem_append

lemma Unmarked.subset {cs ds : List Char} (h : Unmarked cs) (hd : ds ⊆ cs) : Unmarked ds :=
  fun c hc => h c (hd hc)

/-- What all elements of a list have in common, an element without it is not in the list. -/
lemma not_mem_of_all {α : Type} {p : α → Bool} {a : α} {l : List α} (hl : l.all p = true)
    (ha : p a = false) : a ∉ l := by
  intro mem
  rw [List.all_eq_true.1 hl a mem] at ha
  cases ha

/-- A text has no marks if all its characters have something in common that marks have not. -/
lemma unmarked_of_forall {p : Char → Bool} {cs : List Char} (question : p '?' = false)
    (number : p '#' = false) (h : ∀ c ∈ cs, p c = true) : Unmarked cs := by
  have all : cs.all p = true := List.all_eq_true.2 h
  exact unmarked_iff.2 ⟨not_mem_of_all all question, not_mem_of_all all number⟩

lemma splitMarks_of_unmarked {front cs : List Char} (h : Unmarked front) :
    splitMarks (front ++ cs) = { splitMarks cs with body := front ++ (splitMarks cs).body } :=
  splitMarks_append (unmarked_iff.1 h).2 (unmarked_iff.1 h).1

/-- What is in front of the marks has none. -/
lemma unmarked_splitMarks (cs : List Char) : Unmarked (splitMarks cs).body := by
  have cut : ∃ body, '#' ∉ body ∧
      (splitMarks cs).body = ((splitFirst? '?' body).map (·.1)).getD body := by
    rw [splitMarks]
    cases hs : splitFirst? '#' cs with
    | none =>
      refine ⟨cs, splitFirst?_eq_none_iff.1 hs, ?_⟩
      dsimp only
      cases splitFirst? '?' cs <;> rfl
    | some parts =>
      refine ⟨parts.1, (eq_append_of_splitFirst? hs).2, ?_⟩
      dsimp only
      cases splitFirst? '?' parts.1 <;> rfl
  obtain ⟨body, number, whole⟩ := cut
  rw [whole]
  cases hq : splitFirst? '?' body with
  | none => exact unmarked_iff.2 ⟨splitFirst?_eq_none_iff.1 hq, number⟩
  | some parts =>
    obtain ⟨split, question⟩ := eq_append_of_splitFirst? hq
    rw [split, List.mem_append, not_or] at number
    exact unmarked_iff.2 ⟨question, number.1⟩

/-! ### Sets of characters

Each set that characters are encoded in is part of the next one. -/

variable {c : Char} {cs : List Char}

lemma inPathSet_of_inUserinfoSet (h : inUserinfoSet c = false) : inPathSet c = false := by
  simp only [inUserinfoSet, Bool.or_eq_false_iff, and_assoc] at h
  exact h.1

lemma inFragmentSet_of_inPathSet (h : inPathSet c = false) : inFragmentSet c = false := by
  simp only [inPathSet, Bool.or_eq_false_iff, and_assoc] at h
  exact h.1

lemma inControlSet_of_inFragmentSet (h : inFragmentSet c = false) : inControlSet c = false := by
  simp only [inFragmentSet, Bool.or_eq_false_iff, and_assoc] at h
  exact h.1

lemma inQuerySet_of_inSpecialQuerySet (h : inSpecialQuerySet c = false) : inQuerySet c = false :=
  (Bool.or_eq_false_iff.1 h).1

lemma visible_of_inControlSet (control : inControlSet c = false) (blank : c ≠ ' ') :
    isOuterBlank c = false := by
  rw [inControlSet, Bool.or_eq_false_iff, decide_eq_false_iff_not] at control
  have other : c.toNat ≠ 0x20 := by
    intro h
    exact blank (Char.toNat_inj.1 h)
  rw [isOuterBlank, decide_eq_false_iff_not]
  have := control.1
  omega

lemma visible_of_inQuerySet (h : inQuerySet c = false) : isOuterBlank c = false := by
  simp only [inQuerySet, Bool.or_eq_false_iff, beq_eq_false_iff_ne] at h
  exact visible_of_inControlSet h.1.1.1.1.1 h.1.1.1.1.2

lemma visible_of_inFragmentSet (h : inFragmentSet c = false) : isOuterBlank c = false := by
  simp only [inFragmentSet, Bool.or_eq_false_iff, beq_eq_false_iff_ne] at h
  exact visible_of_inControlSet h.1.1.1.1.1 h.1.1.1.1.2

lemma counts_of_visible (h : isOuterBlank c = false) : counts c = true := by
  by_contra passed
  simp only [counts, Bool.not_eq_true', Bool.not_eq_false, Bool.or_eq_true, beq_iff_eq] at passed
  rcases passed with (rfl | rfl) | rfl <;> cases h

/-! ### Texts without blanks and marks -/

/-- There is no blank, no `?` and no `#` in the text. -/
def Unbroken (cs : List Char) : Prop :=
  ∀ c ∈ cs, isOuterBlank c = false ∧ c ≠ '?' ∧ c ≠ '#'

@[simp] lemma unbroken_nil : Unbroken [] :=
  List.forall_mem_nil _

@[simp] lemma unbroken_cons :
    Unbroken (c :: cs) ↔ (isOuterBlank c = false ∧ c ≠ '?' ∧ c ≠ '#') ∧ Unbroken cs :=
  List.forall_mem_cons

@[simp] lemma unbroken_append {front back : List Char} :
    Unbroken (front ++ back) ↔ Unbroken front ∧ Unbroken back :=
  List.forall_mem_append

lemma Unbroken.unmarked (h : Unbroken cs) : Unmarked cs :=
  fun c hc => (h c hc).2

lemma unbroken_flatMap {α : Type} {f : α → List Char} {l : List α} :
    Unbroken (l.flatMap f) ↔ ∀ a ∈ l, Unbroken (f a) := by
  induction l with
  | nil => simp
  | cons a l ih => simp [ih]

/-- No character of a path is a blank or a mark. -/
lemma unbroken_of_inPathSet (h : ∀ c ∈ cs, inPathSet c = false) : Unbroken cs := by
  intro c hc
  refine ⟨visible_of_inFragmentSet (inFragmentSet_of_inPathSet (h c hc)), ?_⟩
  constructor <;>
    · rintro rfl
      exact absurd (h _ hc) (by decide)

lemma ascii_of_inScheme (h : inScheme c = true) : c.toNat < 0x80 := by
  delta inScheme Char.isAlphanum Char.isAlpha Char.isUpper Char.isLower Char.isDigit at h
  simp only [Bool.or_eq_true, Bool.and_eq_true, decide_eq_true_eq, beq_iff_eq,
    UInt32.le_iff_toNat_le] at h
  rcases h with ((((upper | lower) | digit) | rfl) | rfl) | rfl
  · exact lt_of_le_of_lt upper.2 (by decide)
  · exact lt_of_le_of_lt lower.2 (by decide)
  · exact lt_of_le_of_lt digit.2 (by decide)
  all_goals decide

/-- No character of a scheme is a blank or a mark, and its letters may be written small. -/
lemma plain_of_inScheme (h : inScheme c = true) :
    (isOuterBlank c = false ∧ c ≠ '?' ∧ c ≠ '#') ∧ inScheme c.toLower = true := by
  have checked : inScheme c = true →
      (isOuterBlank c = false ∧ c ≠ '?' ∧ c ≠ '#') ∧ inScheme c.toLower = true := by
    apply forall_ascii _ (ascii_of_inScheme h)
    decide +kernel
  exact checked h

lemma unbroken_of_inScheme (h : ∀ c ∈ cs, inScheme c = true) : Unbroken cs :=
  fun c hc => (plain_of_inScheme (h c hc)).1

lemma unbroken_of_isAlphanum (h : ∀ c ∈ cs, c.isAlphanum = true) : Unbroken cs := by
  apply unbroken_of_inScheme
  intro c hc
  simp [inScheme, h c hc]

/-! ### Encoded texts -/

/-- The characters that a byte is written with are encoded in no part. -/
lemma encodeByte_plain (b : UInt8) :
    ∀ c ∈ encodeByte b, inUserinfoSet c = false ∧ inSpecialQuerySet c = false := by
  rw [← List.forall_iff_forall_mem]
  revert b
  apply forall_byte
  decide +kernel

/-- A character of an encoded text was there before, or is one that a byte is written with. -/
lemma mem_percentEncode {set : Char → Bool} (h : c ∈ percentEncode set cs) :
    c ∈ cs ∧ set c = false ∨ ∃ b, c ∈ encodeByte b := by
  obtain ⟨d, hd, hc⟩ := List.mem_flatMap.1 h
  split_ifs at hc with inSet
  · obtain ⟨b, -, hb⟩ := List.mem_flatMap.1 hc
    exact Or.inr ⟨b, hb⟩
  · rw [List.mem_singleton] at hc
    subst hc
    exact Or.inl ⟨hd, Bool.eq_false_iff.2 inSet⟩

/-- A character of an encoded text is in no set that is smaller. -/
lemma not_inSet_of_mem_percentEncode {set smaller : Char → Bool}
    (hs : ∀ c, set c = false → smaller c = false)
    (hb : ∀ b, ∀ c ∈ encodeByte b, smaller c = false) :
    ∀ c ∈ percentEncode set cs, smaller c = false := by
  intro c hc
  rcases mem_percentEncode hc with ⟨-, outside⟩ | ⟨b, written⟩
  · exact hs c outside
  · exact hb b c written

lemma map_percentEncode_eq_self {set : Char → Bool} {part : Option (List Char)}
    (h : ∀ cs ∈ part, ∀ c ∈ cs, set c = false) : part.map (percentEncode set) = part := by
  cases part with
  | none => rfl
  | some cs => exact congrArg some (percentEncode_eq_self (h cs rfl))

lemma percentEncode_ne_nil {set : Char → Bool} (h : cs ≠ []) : percentEncode set cs ≠ [] := by
  cases cs with
  | nil => exact absurd rfl h
  | cons c cs =>
    obtain ⟨b, bs, bytes, -⟩ := utf8Step_utf8EncodeChar c []
    rw [percentEncode, List.flatMap_cons, bytes]
    split_ifs <;> simp [encodeByte]

lemma Unmarked.percentEncode (h : Unmarked cs) (set : Char → Bool) :
    Unmarked (percentEncode set cs) := by
  intro c hc
  rcases mem_percentEncode hc with ⟨mem, -⟩ | ⟨b, written⟩
  · exact h c mem
  · exact (unbroken_of_inPathSet fun c hc =>
      inPathSet_of_inUserinfoSet (encodeByte_plain b c hc).1).unmarked c written

/-- Encoded for a path, a text has neither blanks nor marks. -/
lemma not_inPathSet_percentEncode {set : Char → Bool}
    (hs : ∀ c, set c = false → inPathSet c = false) (cs : List Char) :
    ∀ c ∈ percentEncode set cs, inPathSet c = false :=
  not_inSet_of_mem_percentEncode hs fun b c hc =>
    inPathSet_of_inUserinfoSet (encodeByte_plain b c hc).1

/-! ### Hosts -/

lemma unbroken_decimal (n : Nat) : Unbroken (decimal n) := by
  apply unbroken_of_isAlphanum
  intro c hc
  simp [Char.isAlphanum, isDigit_of_mem_decimal hc]

lemma unbroken_toDigits_sixteen (n : Nat) : Unbroken (Nat.toDigits 16 n) := by
  have digit : ∀ d < 16, Unbroken [d.digitChar] := by
    intro d hd
    apply unbroken_of_isAlphanum
    rw [List.forall_mem_singleton]
    decide +revert
  induction n using Nat.strong_induction_on with
  | h n ih =>
    by_cases small : n < 16
    · rw [Nat.toDigits_of_lt_base small]
      exact digit n small
    · rw [Nat.toDigits_of_base_le (by decide) (Nat.not_lt.1 small), unbroken_append]
      exact ⟨ih _ (by omega), digit _ (Nat.mod_lt n (by decide))⟩

lemma unbroken_ipv6Join (ps : List Nat) : Unbroken (ipv6Join ps) := by
  apply forall_mem_intercalate (unbroken_cons.2 ⟨by decide, unbroken_nil⟩)
  rw [List.forall_mem_map]
  intro n _
  exact unbroken_toDigits_sixteen n

lemma unbroken_ipv6Text (ps : List Nat) : Unbroken (ipv6Text ps) := by
  rw [ipv6Text]
  split
  split_ifs <;> simp [unbroken_ipv6Join, isOuterBlank]

lemma unbroken_ipv4Text (n : Nat) : Unbroken (ipv4Text n) := by
  simp [ipv4Text, unbroken_decimal, isOuterBlank]

lemma not_isForbiddenInHost_of_any (h : cs.any isForbiddenInHost = false) :
    ∀ c ∈ cs, isForbiddenInHost c = false := by
  simpa using h

/-- No mark and no blank that is kept may stand in a host. -/
lemma unbroken_percentEncode_host (h : ∀ c ∈ cs, isForbiddenInHost c = false) :
    Unbroken (percentEncode inControlSet cs) := by
  intro c hc
  rcases mem_percentEncode hc with ⟨mem, outside⟩ | ⟨b, written⟩
  · have allowed := h c mem
    refine ⟨visible_of_inControlSet outside ?_, ?_, ?_⟩ <;>
      · rintro rfl
        cases allowed
  · exact unbroken_of_inPathSet (fun c hc =>
      inPathSet_of_inUserinfoSet (encodeByte_plain b c hc).1) c written

variable {k : SchemeKind} {host : List Char}

lemma unbroken_bracketedHost (h : bracketedHost cs = .ok host) : Unbroken host := by
  rw [bracketedHost] at h
  split_ifs at h
  split at h
  · cases h
    exact unbroken_ipv6Text _
  · cases h

lemma unbroken_plainHost (h : plainHost cs = .ok host) : Unbroken host := by
  rw [plainHost] at h
  split_ifs at h with bracket forbidden
  · exact unbroken_bracketedHost h
  · cases h
    exact unbroken_percentEncode_host (by simpa using forbidden)

lemma unbroken_of_isForbiddenInDomain (h : ∀ c ∈ cs, isForbiddenInDomain c = false) :
    Unbroken cs := by
  intro c hc
  have allowed := h c hc
  simp only [isForbiddenInDomain, Bool.or_eq_false_iff, decide_eq_false_iff_not] at allowed
  obtain ⟨⟨⟨control, -⟩, delete⟩, allowed⟩ := allowed
  refine ⟨?_, ?_, ?_⟩
  · rw [isOuterBlank, decide_eq_false_iff_not]
    intro low
    have blank : c = ' ' := Char.toNat_inj.1 (show c.toNat = 0x20 by omega)
    subst blank
    cases allowed
  all_goals
    rintro rfl
    cases allowed

lemma unbroken_domainHost (h : domainHost cs = .ok host) : Unbroken host := by
  rw [domainHost] at h
  split_ifs at h
  · exact unbroken_bracketedHost h
  · rw [domainName] at h
    split at h
    · cases h
    · split_ifs at h with forbidden empty number
      · split at h
        · cases h
          exact unbroken_ipv4Text _
        · cases h
      · cases h
        exact unbroken_of_isForbiddenInDomain (by simpa using forbidden)

lemma unbroken_readHost (h : readHost k cs = .ok host) : Unbroken host := by
  cases k with
  | plain => exact unbroken_plainHost h
  | special port =>
    simp only [readHost] at h
    split_ifs at h
    exact unbroken_domainHost h
  | file =>
    simp only [readHost] at h
    split_ifs at h
    exact unbroken_domainHost h

/-! ### Authorities -/

lemma unmarked_of_inside (h : ∀ c ∈ cs, k.endsAuthority c = false) : Unmarked cs := by
  intro c hc
  exact (not_mark_of_inside (h c hc)).2

lemma not_inUserinfoSet_percentEncode (cs : List Char) :
    ∀ c ∈ percentEncode inUserinfoSet cs, inUserinfoSet c = false :=
  not_inSet_of_mem_percentEncode (fun _ => id) fun b c hc => (encodeByte_plain b c hc).1

lemma not_inUserinfoSet_readUserinfo (cs : List Char) :
    (∀ c ∈ (readUserinfo cs).1, inUserinfoSet c = false) ∧
      ∀ p ∈ (readUserinfo cs).2, p ≠ [] ∧ ∀ c ∈ p, inUserinfoSet c = false := by
  rw [readUserinfo]
  split
  · refine ⟨not_inUserinfoSet_percentEncode _, ?_⟩
    rintro p ⟨⟩
  · refine ⟨not_inUserinfoSet_percentEncode _, ?_⟩
    rename_i password _
    split_ifs with empty
    · rintro p ⟨⟩
    · rintro p hp
      cases hp
      exact ⟨percentEncode_ne_nil empty, not_inUserinfoSet_percentEncode _⟩

/-- The parts of an authority as they are read: user name and password are encoded, the port is one
that has to be written, and without a host there is nothing. -/
structure Authority.Encoded (k : SchemeKind) (a : Authority) : Prop where
  username : ∀ c ∈ a.username, inUserinfoSet c = false
  password : ∀ p ∈ a.password, p ≠ [] ∧ ∀ c ∈ p, inUserinfoSet c = false
  host : a.host = [] ∨ ∃ cs, readHost k cs = .ok a.host
  port : ∀ p ∈ a.port, p ≤ 65535 ∧ k.usualPort? ≠ some p
  alone : a.host = [] → a.username = [] ∧ a.password = none ∧ a.port = none

lemma Authority.Encoded.unbroken_text {a : Authority} (h : a.Encoded k) : Unbroken a.text := by
  obtain ⟨username, secret, name, port⟩ := a
  have user : Unbroken username :=
    unbroken_of_inPathSet fun c hc => inPathSet_of_inUserinfoSet (h.username c hc)
  have host : Unbroken name := by
    rcases h.host with empty | ⟨cs, read⟩
    · obtain rfl : name = [] := empty
      exact unbroken_nil
    · exact unbroken_readHost read
  have credentials : Unbroken (Authority.credentials ⟨username, secret, name, port⟩) := by
    cases secret with
    | none =>
      cases username with
      | nil => exact unbroken_nil
      | cons c rest => simpa [Authority.credentials, isOuterBlank] using user
    | some p =>
      have password : Unbroken p :=
        unbroken_of_inPathSet fun c hc => inPathSet_of_inUserinfoSet ((h.password p rfl).2 c hc)
      simpa [Authority.credentials, isOuterBlank] using ⟨user, password⟩
  rw [Authority.text, unbroken_append, unbroken_append]
  refine ⟨⟨credentials, host⟩, ?_⟩
  cases port <;> simp [unbroken_decimal, isOuterBlank]

lemma splitHost_eq (inBrackets : Bool) (cs : List Char) :
    cs = (splitHost k inBrackets cs).1 ++ (splitHost k inBrackets cs).2 ∧
      ∀ c ∈ (splitHost k inBrackets cs).1, k.endsAuthority c = false := by
  induction cs generalizing inBrackets with
  | nil => simp [splitHost]
  | cons c rest ih =>
    by_cases stop : (c == ':' && !inBrackets || k.endsAuthority c) = true
    · simp [splitHost, stop]
    · have inside : k.endsAuthority c = false := by
        rw [Bool.or_eq_true, not_or] at stop
        exact Bool.eq_false_iff.2 stop.2
      rw [splitHost, if_neg stop]
      dsimp only
      generalize (if c = '[' then true else if c = ']' then false else inBrackets) = deeper
      obtain ⟨whole, others⟩ := ih deeper
      generalize splitHost k deeper rest = parts at whole others
      exact ⟨congrArg (c :: ·) whole, List.forall_mem_cons.2 ⟨inside, others⟩⟩

lemma readPort_ok {usual port : Option Nat} {cs rest : List Char}
    (h : readPort usual cs = .ok (port, rest)) :
    (∀ p ∈ port, p ≤ 65535 ∧ usual ≠ some p) ∧ ∃ ds, cs = ds ++ rest ∧ Unmarked ds := by
  have digits : Unmarked (cs.takeWhile isDigit) :=
    unmarked_of_forall rfl rfl (List.all_eq_true.1 List.all_takeWhile)
  have kept {value : Nat} {ds : List Char} (small : ¬65535 < value) :
      ∀ p ∈ readPort.port usual ds value, p ≤ 65535 ∧ usual ≠ some p := by
    rw [readPort.port]
    split_ifs with dropped
    · exact nofun
    · rintro p hp
      cases hp
      exact ⟨Nat.not_lt.1 small, fun same => dropped (Or.inr same)⟩
  have behind : (∀ p ∈ port, p ≤ 65535 ∧ usual ≠ some p) ∧ cs.dropWhile isDigit = rest := by
    simp only [readPort] at h
    split_ifs at h with large
    split at h
    · cases h
      exact ⟨kept large, rfl⟩
    · split_ifs at h
      cases h
      exact ⟨kept large, rfl⟩
  exact ⟨behind.1, _, by rw [← behind.2, List.takeWhile_append_dropWhile], digits⟩

/-- A host is read, and no mark is passed over. -/
lemma readEndpoint_ok {port : Option Nat} {cs rest : List Char}
    (h : readEndpoint k cs = .ok (host, port, rest)) :
    (∃ hostText, readHost k hostText = .ok host) ∧
      (∀ p ∈ port, p ≤ 65535 ∧ k.usualPort? ≠ some p) ∧ (host = [] → port = none) ∧
      ∃ front, cs = front ++ rest ∧ Unmarked front := by
  obtain ⟨whole, inside⟩ := splitHost_eq (k := k) false cs
  simp only [readEndpoint] at h
  generalize splitHost k false cs = parts at h whole inside
  obtain ⟨hostText, after⟩ := parts
  dsimp only at h whole inside
  obtain ⟨name, read, h⟩ := bind_eq_ok_iff.1 h
  split at h
  · split_ifs at h with some
    obtain ⟨⟨number, behind⟩, digits, h⟩ := bind_eq_ok_iff.1 h
    cases h
    obtain ⟨kept, ds, rfl, unmarked⟩ := readPort_ok digits
    refine ⟨⟨_, read⟩, kept, fun empty => absurd empty some, hostText ++ ':' :: ds,
      by simp [whole], ?_⟩
    simp [unmarked_of_inside inside, unmarked]
  · cases h
    exact ⟨⟨_, read⟩, nofun, fun _ => rfl, hostText, whole, unmarked_of_inside inside⟩

/-- An authority is read encoded, and no mark is passed over. -/
lemma readAuthority_ok {a : Authority} {cs rest : List Char}
    (h : readAuthority k cs = .ok (a, rest)) :
    a.Encoded k ∧ ∃ front, cs = front ++ rest ∧ Unmarked front := by
  have cut : ∃ front, cs = front ++ ((splitUserinfo? k cs).getD ([], cs)).2 ∧ Unmarked front := by
    cases hs : splitUserinfo? k cs with
    | none => exact ⟨[], rfl, unmarked_nil⟩
    | some parts =>
      obtain ⟨userinfo, behind⟩ := parts
      obtain ⟨whole, inside, -⟩ := splitUserinfo?_eq_some_iff.1 hs
      refine ⟨userinfo ++ ['@'], by simp [whole], ?_⟩
      simp [unmarked_of_inside inside]
  obtain ⟨front, whole, unmarked⟩ := cut
  obtain ⟨user, password⟩ :=
    not_inUserinfoSet_readUserinfo ((splitUserinfo? k cs).getD ([], cs)).1
  simp only [readAuthority] at h
  split_ifs at h
  obtain ⟨⟨host, port, behind⟩, read, h⟩ := bind_eq_ok_iff.1 h
  split_ifs at h with lone
  cases h
  obtain ⟨named, kept, portless, before, split, clear⟩ := readEndpoint_ok read
  refine ⟨⟨user, password, Or.inr named, kept, fun empty => ?_⟩, front ++ before, ?_, ?_⟩
  · rw [not_and_or, not_or, not_not, Option.not_isSome_iff_eq_none] at lone
    obtain ⟨nobody, secretless⟩ := lone.resolve_left (not_not.2 empty)
    exact ⟨nobody, secretless, portless empty⟩
  · rw [List.append_assoc, ← split]
    exact whole
  · exact unmarked_append.2 ⟨unmarked, clear⟩

/-! ### Paths -/

/-- The segments are as they are written in a path. -/
def EncodedSegments (segments : List (List Char)) : Prop :=
  ∀ s ∈ segments, ∀ c ∈ s, inPathSet c = false

/-- The path is as it is written. Without structure it may have blanks. -/
def Path.Encoded : Path → Prop
  | .rooted segments => EncodedSegments segments
  | .rootless text => Unmarked text ∧ ∀ c ∈ text, inControlSet c = false

lemma unbroken_rooted {segments : List (List Char)} (h : EncodedSegments segments) :
    Unbroken (Path.rooted segments).text := by
  rw [Path.text, unbroken_flatMap]
  intro s hs
  rw [unbroken_cons]
  exact ⟨by decide, unbroken_of_inPathSet (h s hs)⟩

lemma Path.Encoded.unmarked {path : Path} (h : path.Encoded) : Unmarked path.text := by
  cases path with
  | rooted segments => exact (unbroken_rooted h).unmarked
  | rootless text => exact h.1

/-- Everything in a path is in ASCII. -/
lemma Path.Encoded.not_inControlSet {path : Path} (h : path.Encoded) :
    ∀ c ∈ path.text, inControlSet c = false := by
  cases path with
  | rooted segments =>
    intro c hc
    obtain ⟨s, hs, hc⟩ := List.mem_flatMap.1 hc
    rcases List.mem_cons.1 hc with rfl | hc
    · decide
    · exact inControlSet_of_inFragmentSet (inFragmentSet_of_inPathSet (h s hs c hc))
  | rootless text => exact h.2

lemma not_inPathSet_of_isAlpha (h : c.isAlpha = true) : inPathSet c = false := by
  have passed : inScheme c = true := by simp [inScheme, Char.isAlphanum, h]
  have checked : c.isAlpha = true → inPathSet c = false := by
    apply forall_ascii _ (ascii_of_inScheme passed)
    decide +kernel
  exact checked h

lemma encoded_take_of_isDriveLetter {s : List Char} (h : isDriveLetter s = true) :
    ∀ c ∈ s.take 1 ++ [':'], inPathSet c = false := by
  match s with
  | [c, m] =>
    rw [isDriveLetter, Bool.and_eq_true] at h
    exact List.forall_mem_cons.2
      ⟨not_inPathSet_of_isAlpha h.1, List.forall_mem_singleton.2 (by decide)⟩

lemma encodedSegments_shorten {done : List (List Char)} (h : EncodedSegments done) :
    EncodedSegments (shorten done) := by
  rw [shorten]
  split_ifs
  · exact h
  · intro s hs
    exact h s (List.dropLast_subset done hs)

/-- Whatever is walked over, the segments are encoded. -/
lemma encodedSegments_walk {done segments : List (List Char)} (h : EncodedSegments done) :
    EncodedSegments (walk k done segments) := by
  have extended {done : List (List Char)} {s : List Char} (h : EncodedSegments done)
      (hs : ∀ c ∈ s, inPathSet c = false) : EncodedSegments (done ++ [s]) :=
    List.forall_mem_append.2 ⟨h, List.forall_mem_singleton.2 hs⟩
  induction segments generalizing done with
  | nil => exact h
  | cons s rest ih =>
    rw [walk]
    dsimp only
    split_ifs with up last here last drive
    · exact ih (extended (encodedSegments_shorten h) (List.forall_mem_nil _))
    · exact ih (encodedSegments_shorten h)
    · exact ih (extended h (List.forall_mem_nil _))
    · exact ih h
    · exact ih (List.forall_mem_singleton.2 (encoded_take_of_isDriveLetter drive.2.2))
    · exact ih (extended h (not_inPathSet_percentEncode (fun _ => id) s))

lemma encodedSegments_readSegments (cs : List Char) : EncodedSegments (readSegments k cs) :=
  encodedSegments_walk (List.forall_mem_nil _)

lemma encodedSegments_segmentsAfterAuthority (cs : List Char) :
    EncodedSegments (segmentsAfterAuthority k cs) := by
  cases cs with
  | nil =>
    rw [segmentsAfterAuthority]
    split_ifs <;> simp [EncodedSegments]
  | cons c rest => exact encodedSegments_readSegments _

lemma encoded_filePath {segments : List (List Char)} (h : EncodedSegments segments) :
    (filePath segments).Encoded := by
  rw [filePath]
  split
  · simp [Path.Encoded, EncodedSegments]
  · intro s hs
    exact h s ((List.dropWhile_suffix _).subset hs)

lemma readFile_encoded {a : Authority} {path : Path} {cs : List Char}
    (h : readFile cs = .ok (a, path)) : a.Encoded .file ∧ path.Encoded := by
  obtain ⟨host, segments, rfl, rfl, named, rest, read⟩ := readFile_ok h
  have encoded : EncodedSegments segments := by
    rcases read with rfl | rfl
    · exact encodedSegments_readSegments rest
    · exact encodedSegments_segmentsAfterAuthority rest
  refine ⟨⟨List.forall_mem_nil _, nofun, ?_, nofun, fun _ => ⟨rfl, rfl, rfl⟩⟩,
    encoded_filePath encoded⟩
  rcases named with empty | ⟨hostText, domain⟩
  · exact Or.inl empty
  · have nothing : domainHost [] = .error .emptyHost := by decide +kernel
    have some : hostText ≠ [] := by
      rintro rfl
      rw [nothing] at domain
      cases domain
    exact Or.inr ⟨hostText, by rw [readHost, if_neg some, domain]; nofun⟩

end NestedTx.Url
