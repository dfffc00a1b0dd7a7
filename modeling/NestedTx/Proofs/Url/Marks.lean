import NestedTx.Proofs.Text.Trimming
import NestedTx.Proofs.Url.Written

/-!
# Marks in URLs

The parts of a URL that is read are encoded, so that the first marks in its text are those in front
of its query and its fragment. Whoever cuts the text there finds them as they are.
-/

namespace NestedTx.Url

open Text

/-! ### URLs -/

/-- The characters that are encoded in the query of a scheme. -/
def querySet (scheme : List Char) : Char → Bool :=
  if (schemeKind scheme).isSpecial then inSpecialQuerySet else inQuerySet

/-- The text of a URL in front of its marks. -/
def front (url : Url) : List Char :=
  url.scheme ++ ':' :: url.authorityText ++ url.path.text

/-- A query and a fragment behind their marks. -/
def marksText (query fragment : Option (List Char)) : List Char :=
  markedText '?' query ++ markedText '#' fragment

lemma text_eq_front (url : Url) : url.text = url.front ++ marksText url.query url.fragment := by
  simp [text, Url.front, marksText]

/-- The first marks in the text of a URL are those of its query and its fragment, which have no
character that would be encoded. -/
structure Delimited (url : Url) : Prop where
  front : Unmarked url.front
  query : ∀ q ∈ url.query, ∀ c ∈ q, inQuerySet c = false
  fragment : ∀ f ∈ url.fragment, ∀ c ∈ f, inFragmentSet c = false

/-- What is in front of the marks is encoded. -/
structure FrontEncoded (url : Url) : Prop where
  scheme : ∀ c ∈ url.scheme, inScheme c = true
  authority : ∀ a ∈ url.authority, a.Encoded (schemeKind url.scheme)
  path : url.path.Encoded

lemma FrontEncoded.unbroken_scheme {url : Url} (h : url.FrontEncoded) :
    Unbroken (url.scheme ++ ':' :: url.authorityText) := by
  have between : Unbroken url.authorityText := by
    rw [authorityText]
    split
    · rename_i a ha
      simpa [isOuterBlank] using (h.authority a ha).unbroken_text
    · split <;> simp [isOuterBlank]
  rw [unbroken_append, unbroken_cons]
  exact ⟨unbroken_of_inScheme h.scheme, by decide, between⟩

lemma FrontEncoded.unmarked_front {url : Url} (h : url.FrontEncoded) : Unmarked url.front := by
  rw [Url.front, unmarked_append]
  exact ⟨h.unbroken_scheme.unmarked, h.path.unmarked⟩

variable {scheme : List Char}

/-- A URL as it is read behind a scheme: what is in front of its query and its fragment is encoded,
and those are behind the first marks of the text. -/
structure ReadBehind (scheme cs : List Char) (url : Url) : Prop where
  scheme : url.scheme = scheme
  authority : ∀ a ∈ url.authority, a.Encoded (schemeKind url.scheme)
  path : url.path.Encoded
  query : url.query = (splitMarks cs).query.map (percentEncode (querySet url.scheme))
  fragment : url.fragment = (splitMarks cs).fragment.map (percentEncode inFragmentSet)

lemma readBehind_of_readFromAuthority {front cs : List Char} {url : Url} (hf : Unmarked front)
    (h : readFromAuthority scheme cs = .ok url) : ReadBehind scheme (front ++ cs) url := by
  obtain ⟨⟨a, rest⟩, read, assembled⟩ := bind_eq_ok_iff.1 h
  obtain ⟨encoded, before, rfl, clear⟩ := readAuthority_ok read
  cases assembled
  refine ⟨rfl, ?_, encodedSegments_segmentsAfterAuthority _, ?_, ?_⟩
  · rintro b hb
    cases hb
    exact encoded
  · rw [splitMarks_of_unmarked hf, splitMarks_of_unmarked clear]
    rfl
  · rw [splitMarks_of_unmarked hf, splitMarks_of_unmarked clear]
    rfl

lemma readBehind_of_readAfterScheme {cs : List Char} {url : Url}
    (h : readAfterScheme scheme cs = .ok url) : ReadBehind scheme cs url := by
  obtain ⟨k, hk⟩ : ∃ k, schemeKind scheme = k := ⟨_, rfl⟩
  -- three grammars, and in each of them the marks are split off before the path is read
  cases k with
  | file =>
    simp only [readAfterScheme, hk] at h
    obtain ⟨⟨a, path⟩, read, assembled⟩ := bind_eq_ok_iff.1 h
    obtain ⟨encoded, written⟩ := readFile_encoded read
    cases assembled
    refine ⟨rfl, ?_, written, rfl, rfl⟩
    rintro b hb
    cases hb
    dsimp only [assemble]
    rwa [hk]
  | special port =>
    rw [readAfterScheme_special hk] at h
    have slashes : Unmarked (cs.takeWhile (schemeKind scheme).isSlash) := by
      rw [hk]
      exact unmarked_of_forall rfl rfl (List.all_eq_true.1 List.all_takeWhile)
    have read := readBehind_of_readFromAuthority slashes h
    rwa [List.takeWhile_append_dropWhile] at read
  | plain =>
    simp only [readAfterScheme, hk] at h
    split at h
    · have slashes : Unmarked ['/', '/'] := by simp
      exact readBehind_of_readFromAuthority slashes h
    · cases h
      refine ⟨rfl, fun a ha => absurd ha (Option.not_mem_none a), ?_, rfl, rfl⟩
      dsimp only [assemble]
      split
      · exact encodedSegments_readSegments _
      · refine ⟨(unmarked_splitMarks cs).percentEncode _, ?_⟩
        exact not_inSet_of_mem_percentEncode (fun _ => id) fun b c hc =>
          inControlSet_of_inFragmentSet (inFragmentSet_of_inPathSet
            (inPathSet_of_inUserinfoSet (encodeByte_plain b c hc).1))

lemma inScheme_of_readScheme? {cs rest : List Char} (h : readScheme? cs = some (scheme, rest)) :
    ∀ c ∈ scheme, inScheme c = true := by
  obtain ⟨word, -, -, passed, rfl⟩ := readScheme?_eq_some_iff.1 h
  intro c hc
  obtain ⟨d, hd, rfl⟩ := List.mem_map.1 hc
  exact (plain_of_inScheme (passed d hd)).2

lemma inQuerySet_of_querySet {c : Char} (h : querySet scheme c = false) : inQuerySet c = false := by
  rw [querySet] at h
  split_ifs at h
  · exact inQuerySet_of_inSpecialQuerySet h
  · exact h

lemma querySet_of_inSpecialQuerySet {c : Char} (h : inSpecialQuerySet c = false) :
    querySet scheme c = false := by
  rw [querySet]
  split_ifs
  · exact h
  · exact inQuerySet_of_inSpecialQuerySet h

/-- A plain query is not encoded. -/
lemma map_percentEncode_query {query : Option (List Char)}
    (h : ∀ q ∈ query, ∀ c ∈ q, inSpecialQuerySet c = false) (scheme : List Char) :
    query.map (percentEncode (querySet scheme)) = query :=
  map_percentEncode_eq_self fun q hq c hc => querySet_of_inSpecialQuerySet (h q hq c hc)

lemma frontEncoded_of_parse {cs : List Char} {url : Url} (h : parse cs = .ok url) :
    url.FrontEncoded := by
  rw [parse] at h
  split at h
  · rename_i scheme rest hs
    have read := readBehind_of_readAfterScheme h
    rw [← read.scheme] at hs
    exact ⟨inScheme_of_readScheme? hs, read.authority, read.path⟩
  · cases h

/-- Every URL that is read is cut by its marks. -/
theorem delimited_of_parse {cs : List Char} {url : Url} (h : parse cs = .ok url) :
    url.Delimited := by
  have front := (frontEncoded_of_parse h).unmarked_front
  rw [parse] at h
  split at h
  · have read := readBehind_of_readAfterScheme h
    refine ⟨front, ?_, ?_⟩
    · rw [read.query]
      intro q hq
      obtain ⟨raw, -, rfl⟩ := Option.mem_map.1 hq
      apply not_inSet_of_mem_percentEncode fun _ => inQuerySet_of_querySet
      exact fun b c hc => inQuerySet_of_inSpecialQuerySet (encodeByte_plain b c hc).2
    · rw [read.fragment]
      intro f hf
      obtain ⟨raw, -, rfl⟩ := Option.mem_map.1 hf
      exact not_inSet_of_mem_percentEncode (fun _ => id) fun b c hc =>
        inFragmentSet_of_inPathSet (inPathSet_of_inUserinfoSet (encodeByte_plain b c hc).1)
  · cases h

/-! ### Cutting a text again -/

lemma splitFirst?_markedText (mark : Char) (part : Option (List Char)) :
    splitFirst? mark (markedText mark part) = part.map fun p => ([], p) := by
  cases part with
  | none => rfl
  | some p => exact splitFirst?_cons_self mark p

lemma splitMarks_marksText {front : List Char} {query fragment : Option (List Char)}
    (hf : Unmarked front) (h : ∀ q ∈ query, '#' ∉ q) :
    splitMarks (front ++ marksText query fragment) = ⟨front, query, fragment⟩ := by
  have number : '#' ∉ markedText '?' query := by
    cases query with
    | none => exact List.not_mem_nil
    | some q => simp [markedText, h q rfl]
  have cut : splitMarks (marksText query fragment) = ⟨[], query, fragment⟩ := by
    rw [marksText, splitMarks, splitFirst?_append number, splitFirst?_markedText]
    cases fragment with
    | none =>
      rw [markedText, List.append_nil]
      dsimp only [Option.map_none]
      rw [splitFirst?_markedText]
      cases query <;> rfl
    | some f =>
      dsimp only [Option.map_some]
      rw [List.append_nil, splitFirst?_markedText]
      cases query <;> rfl
  rw [splitMarks_of_unmarked hf, cut, List.append_nil]

lemma Delimited.number_not_mem {url : Url} (h : url.Delimited) : ∀ q ∈ url.query, '#' ∉ q := by
  intro q hq number
  exact absurd (h.query q hq '#' number) (by decide)

/-- The text of a URL is cut into what is in front of its marks, its query and its fragment. -/
theorem Delimited.splitMarks_text {url : Url} (h : url.Delimited) :
    splitMarks url.text = ⟨url.front, url.query, url.fragment⟩ := by
  rw [text_eq_front, splitMarks_marksText h.front h.number_not_mem]

/-! ### Reading a text again -/

/-- The visible end of a text counts, and nothing new comes in front of it. -/
lemma exists_significant_append_visible (front : List Char) {back : List Char}
    (h : ∀ c ∈ back, isOuterBlank c = false) :
    ∃ rest ⊆ front, significant (front ++ back) = rest ++ back := by
  have outer : (front ++ back).dropWhile isOuterBlank = front.dropWhile isOuterBlank ++ back := by
    rw [List.dropWhile_append, dropWhile_of_head? fun c hc => h c (List.mem_of_mem_head? hc)]
    split_ifs with gone
    · rw [List.isEmpty_iff.1 gone, List.nil_append]
    · rfl
  have core : ∃ rest ⊆ front, trimWhere isOuterBlank (front ++ back) = rest ++ back := by
    have kept : back.reverse.dropWhile isOuterBlank = back.reverse :=
      dropWhile_of_head? fun c hc => h c (List.mem_reverse.1 (List.mem_of_mem_head? hc))
    have within : front.dropWhile isOuterBlank ⊆ front := (List.dropWhile_suffix _).subset
    rw [trimWhere, outer, List.reverse_append, List.dropWhile_append, kept]
    split_ifs with empty
    · obtain rfl : back = [] := by simpa using empty
      refine ⟨_, fun c hc => ?_, (List.append_nil _).symm⟩
      have inner := (List.dropWhile_suffix _).subset (List.mem_reverse.1 hc)
      exact within (List.mem_reverse.1 inner)
    · exact ⟨_, within, by simp⟩
  obtain ⟨rest, within, trimmed⟩ := core
  refine ⟨rest.filter counts, fun c hc => within (List.mem_filter.1 hc).1, ?_⟩
  show (trimWhere isOuterBlank (front ++ back)).filter counts = _
  rw [trimmed, List.filter_append, List.filter_eq_self.2 fun c hc => counts_of_visible (h c hc)]

lemma visible_markedText {mark : Char} {part : Option (List Char)}
    (hm : isOuterBlank mark = false) (h : ∀ p ∈ part, ∀ c ∈ p, isOuterBlank c = false) :
    ∀ c ∈ markedText mark part, isOuterBlank c = false := by
  cases part with
  | none => exact List.forall_mem_nil _
  | some p => exact List.forall_mem_cons.2 ⟨hm, h p rfl⟩

lemma Delimited.visible_marksText {url : Url} (h : url.Delimited) :
    ∀ c ∈ marksText url.query url.fragment, isOuterBlank c = false := by
  rw [marksText, List.forall_mem_append]
  constructor
  · apply visible_markedText (by decide)
    intro q hq c hc
    exact visible_of_inQuerySet (h.query q hq c hc)
  · apply visible_markedText (by decide)
    intro f hf c hc
    exact visible_of_inFragmentSet (h.fragment f hf c hc)

/-- What counts of the text of a URL is cut as the text is. -/
lemma Delimited.splitMarks_significant_text {url : Url} (h : url.Delimited) :
    ∃ front, splitMarks (significant url.text) = ⟨front, url.query, url.fragment⟩ := by
  obtain ⟨front, within, counted⟩ :=
    exists_significant_append_visible url.front h.visible_marksText
  refine ⟨front, ?_⟩
  rw [text_eq_front, counted, splitMarks_marksText (h.front.subset within) h.number_not_mem]

/-- Whoever reads the text of a URL finds its query and its fragment. -/
theorem Delimited.parse_text {url again : Url} (h : url.Delimited)
    (read : parse url.text = .ok again) :
    again.query = url.query.map (percentEncode (querySet again.scheme)) ∧
      again.fragment = url.fragment := by
  obtain ⟨front, cut⟩ := h.splitMarks_significant_text
  rw [parse] at read
  split at read
  · rename_i scheme rest hs
    obtain ⟨word, whole, -, passed, -⟩ := readScheme?_eq_some_iff.1 hs
    have plain : Unmarked (word ++ [':']) := by
      rw [unmarked_append]
      exact ⟨unmarked_of_forall rfl rfl passed, by simp⟩
    rw [whole, ← List.singleton_append, ← List.append_assoc, splitMarks_of_unmarked plain] at cut
    have behind := readBehind_of_readAfterScheme read
    have query : (splitMarks rest).query = url.query := congrArg Marks.query cut
    have fragment : (splitMarks rest).fragment = url.fragment := congrArg Marks.fragment cut
    rw [behind.query, behind.fragment, query, fragment]
    exact ⟨rfl, map_percentEncode_eq_self h.fragment⟩
  · cases read

end NestedTx.Url
