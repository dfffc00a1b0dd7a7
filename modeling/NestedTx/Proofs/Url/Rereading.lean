import NestedTx.Proofs.Url.Marks

/-!
# Reading the text of a URL

Nothing is cut off the text of a URL when it is read, but for blanks at the end of a path without
structure. What is in front of its marks is read in the same way whatever the marks are.
-/

namespace NestedTx.Url

open Text

/-! ### The text that counts -/

variable {url other : Url} {cs : List Char}

lemma significant_eq_self (inside : ∀ c ∈ cs, counts c = true)
    (first : ∀ c ∈ cs.head?, isOuterBlank c = false)
    (last : ∀ c ∈ cs.getLast?, isOuterBlank c = false) : significant cs = cs := by
  have trimmed : trimWhere isOuterBlank cs = cs :=
    trimWhere_eq_iff.2 ⟨⟨[], [], by simp, nofun, nofun⟩, first, last⟩
  show (trimWhere isOuterBlank cs).filter counts = cs
  rw [trimmed, List.filter_eq_self.2 inside]

lemma counts_of_inControlSet {c : Char} (h : inControlSet c = false) : counts c = true := by
  by_cases blank : c = ' '
  · subst blank
    rfl
  · exact counts_of_visible (visible_of_inControlSet h blank)

lemma marksText_eq_nil_iff {query fragment : Option (List Char)} :
    marksText query fragment = [] ↔ query = none ∧ fragment = none := by
  cases query <;> cases fragment <;> simp [marksText, markedText]

/-- There are no blanks at the end of the path that would be at the end of the text. -/
def EndsVisibly (url : Url) : Prop :=
  ∀ text, url.path = .rootless text → url.query = none → url.fragment = none →
    ∀ c ∈ text.getLast?, c ≠ ' '

lemma significant_text (front : url.FrontEncoded) (delimited : url.Delimited)
    (ends : url.EndsVisibly) : significant url.text = url.text := by
  have start : ∀ c ∈ url.scheme ++ ':' :: url.authorityText, isOuterBlank c = false :=
    fun c hc => (front.unbroken_scheme c hc).1
  have path : ∀ c ∈ url.path.text, inControlSet c = false := front.path.not_inControlSet
  have back := delimited.visible_marksText
  have whole : url.text = url.scheme ++ ':' :: url.authorityText ++
      (url.path.text ++ marksText url.query url.fragment) := by
    rw [text_eq_front, Url.front, List.append_assoc]
  rw [whole]
  apply significant_eq_self
  · intro c hc
    rcases List.mem_append.1 hc with hc | hc
    · exact counts_of_visible (start c hc)
    · rcases List.mem_append.1 hc with hc | hc
      · exact counts_of_inControlSet (path c hc)
      · exact counts_of_visible (back c hc)
  · intro c hc
    rw [List.head?_append_of_ne_nil _ (by simp)] at hc
    exact start c (List.mem_of_mem_head? hc)
  · intro c hc
    rw [List.getLast?_append, List.getLast?_append, Option.mem_def, Option.or_eq_some_iff,
      Option.or_eq_some_iff] at hc
    -- the last character is that of the marks, or of the path, or of what is before them
    rcases hc with (mark | ⟨markless, last⟩) | ⟨-, last⟩
    · exact back c (List.mem_of_getLast? mark)
    · cases hp : url.path with
      | rooted segments =>
        rw [hp] at last
        have encoded : EncodedSegments segments := by
          have := front.path
          rwa [hp] at this
        exact (unbroken_rooted encoded c (List.mem_of_getLast? last)).1
      | rootless text =>
        rw [List.getLast?_eq_none_iff, marksText_eq_nil_iff] at markless
        have control := path c (List.mem_of_getLast? last)
        rw [hp] at last
        exact visible_of_inControlSet control (ends text hp markless.1 markless.2 c last)
    · exact start c (List.mem_of_getLast? last)

/-! ### Other marks -/

variable {k : SchemeKind} {scheme body tail tail' rest : List Char}
  {query query' fragment : Option (List Char)}

/-- Nothing is there, or a mark is in front. -/
def BeginsMarked (tail : List Char) : Prop :=
  ∀ c ∈ tail.head?, c = '?' ∨ c = '#'

lemma beginsMarked_marksText (query fragment : Option (List Char)) :
    BeginsMarked (marksText query fragment) := by
  intro c hc
  cases query with
  | some q =>
    cases hc
    exact Or.inl rfl
  | none =>
    cases fragment with
    | some f =>
      cases hc
      exact Or.inr rfl
    | none => cases hc

lemma BeginsMarked.nil_or_cons (h : BeginsMarked tail) :
    tail = [] ∨ ∃ c rest, tail = c :: rest ∧ (c = '?' ∨ c = '#') := by
  cases tail with
  | nil => exact Or.inl rfl
  | cons c rest => exact Or.inr ⟨c, rest, rfl, h c rfl⟩

lemma endsAuthority_of_mark {c : Char} (h : c = '?' ∨ c = '#') : k.endsAuthority c = true := by
  rcases h with rfl | rfl <;> simp [SchemeKind.endsAuthority]

/-- What stops at the marks passes over what is in front of them. -/
lemma splitUserinfo?_append (ht : BeginsMarked tail) (body : List Char) :
    splitUserinfo? k (body ++ tail) =
      (splitUserinfo? k body).map fun parts => (parts.1, parts.2 ++ tail) := by
  induction body with
  | nil =>
    rcases ht.nil_or_cons with rfl | ⟨c, rest, rfl, mark⟩
    · rfl
    · simp [splitUserinfo?, endsAuthority_of_mark mark]
  | cons c body ih =>
    rw [List.cons_append, splitUserinfo?, splitUserinfo?, ih]
    split_ifs with stop sign
    · rfl
    · cases splitUserinfo? k body <;> rfl
    · cases splitUserinfo? k body <;> rfl

lemma splitHost_append (ht : BeginsMarked tail) (inBrackets : Bool) (body : List Char) :
    splitHost k inBrackets (body ++ tail) =
      ((splitHost k inBrackets body).1, (splitHost k inBrackets body).2 ++ tail) := by
  induction body generalizing inBrackets with
  | nil =>
    rcases ht.nil_or_cons with rfl | ⟨c, rest, rfl, mark⟩
    · rfl
    · simp [splitHost, endsAuthority_of_mark mark]
  | cons c body ih =>
    rw [List.cons_append, splitHost, splitHost]
    dsimp only
    rw [ih]
    split_ifs <;> rfl

lemma BeginsMarked.stop (ht : BeginsMarked tail) {p : Char → Bool} (question : p '?' = false)
    (number : p '#' = false) : ∀ c ∈ tail.head?, p c = false := by
  intro c hc
  rcases ht c hc with rfl | rfl
  · exact question
  · exact number

lemma readPort_append (ht : BeginsMarked tail) (usual : Option Nat) (body : List Char) :
    readPort usual (body ++ tail) =
      (readPort usual body).map fun parts => (parts.1, parts.2 ++ tail) := by
  obtain ⟨digits, behind⟩ := takeWhile_append_of_stop (ht.stop (p := isDigit) rfl rfl) body
  simp only [readPort, digits, behind]
  split_ifs with large
  · rfl
  · cases body.dropWhile isDigit with
    | nil =>
      rcases ht.nil_or_cons with rfl | ⟨c, rest, rfl, rfl | rfl⟩ <;> rfl
    | cons c rest =>
      dsimp only [List.cons_append, List.head?_cons]
      split_ifs <;> rfl

/-- A host without a port. -/
lemma readEndpoint_of_host {host : List Char}
    (read : readHost k (splitHost k false cs).1 = .ok host)
    (portless : (splitHost k false cs).2.head? ≠ some ':') :
    readEndpoint k cs = .ok (host, none, (splitHost k false cs).2) := by
  rw [readEndpoint]
  generalize splitHost k false cs = parts at read portless
  obtain ⟨hostText, after⟩ := parts
  dsimp only at read portless ⊢
  rw [read]
  dsimp only [bind, Except.bind]
  split
  · exact absurd rfl portless
  · rfl

/-- A host with a port behind it. -/
lemma readEndpoint_of_port {host digits : List Char}
    (read : readHost k (splitHost k false cs).1 = .ok host)
    (colon : (splitHost k false cs).2 = ':' :: digits) :
    readEndpoint k cs =
      if host = [] then .error .emptyHost
      else (readPort k.usualPort? digits).map fun parts => (host, parts) := by
  rw [readEndpoint]
  generalize splitHost k false cs = parts at read colon
  obtain ⟨hostText, after⟩ := parts
  dsimp only at read colon ⊢
  rw [read, colon]
  show (if host = [] then _ else _) = _
  split_ifs
  · rfl
  · cases readPort k.usualPort? digits <;> rfl

lemma readEndpoint_append (ht : BeginsMarked tail) (body : List Char) :
    readEndpoint k (body ++ tail) =
      (readEndpoint k body).map fun parts => (parts.1, parts.2.1, parts.2.2 ++ tail) := by
  have cut := splitHost_append (k := k) ht false body
  cases read : readHost k (splitHost k false body).1 with
  | error e => simp only [readEndpoint, cut, read]; rfl
  | ok host =>
    have read' : readHost k (splitHost k false (body ++ tail)).1 = .ok host := by rwa [cut]
    -- a port is read up to the mark; without a colon the host ends there
    by_cases colon : (splitHost k false body).2.head? = some ':'
    · obtain ⟨digits, behind⟩ := List.head?_eq_some_iff.1 colon
      have behind' : (splitHost k false (body ++ tail)).2 = ':' :: (digits ++ tail) := by
        rw [cut, behind]
        rfl
      rw [readEndpoint_of_port read behind, readEndpoint_of_port read' behind', readPort_append ht]
      split_ifs
      · rfl
      · cases readPort k.usualPort? digits <;> rfl
    · have colon' : (splitHost k false (body ++ tail)).2.head? ≠ some ':' := by
        rw [cut]
        rw [List.head?_append]
        rcases ht.nil_or_cons with rfl | ⟨c, rest, rfl, rfl | rfl⟩ <;>
          cases hb : (splitHost k false body).2.head? <;> simp_all
      rw [readEndpoint_of_host read colon, readEndpoint_of_host read' colon', cut]
      rfl

/-- An authority is read in the same way whatever the marks behind it are. -/
lemma readAuthority_other {a : Authority} (ht : BeginsMarked tail) (ht' : BeginsMarked tail')
    (fewer : tail = [] → tail' = []) (h : readAuthority k (body ++ tail) = .ok (a, rest)) :
    ∃ back, rest = back ++ tail ∧ readAuthority k (body ++ tail') = .ok (a, back ++ tail') := by
  -- what follows the mark is not looked at in the search for an at sign
  have cut {tail : List Char} (ht : BeginsMarked tail) :
      (splitUserinfo? k (body ++ tail)).getD ([], body ++ tail) =
        (((splitUserinfo? k body).getD ([], body)).1,
          ((splitUserinfo? k body).getD ([], body)).2 ++ tail) := by
    rw [splitUserinfo?_append ht]
    cases splitUserinfo? k body <;> rfl
  have signed {tail : List Char} (ht : BeginsMarked tail) :
      (splitUserinfo? k (body ++ tail)).isSome = (splitUserinfo? k body).isSome := by
    rw [splitUserinfo?_append ht, Option.isSome_map]
  rw [readAuthority, cut ht, signed ht] at h
  rw [readAuthority, cut ht', signed ht']
  generalize (splitUserinfo? k body).getD ([], body) = parts at h ⊢
  obtain ⟨userinfo, behind⟩ := parts
  dsimp only at h ⊢
  rw [readEndpoint_append ht] at h
  rw [readEndpoint_append ht']
  split_ifs at h with lost
  rw [if_neg]
  · generalize readUserinfo userinfo = user at h ⊢
    obtain ⟨username, password⟩ := user
    dsimp only at h ⊢
    cases he : readEndpoint k behind with
    | error e => rw [he] at h; cases h
    | ok endpoint =>
      obtain ⟨host, port, back⟩ := endpoint
      rw [he] at h
      dsimp only [Except.map, bind, Except.bind] at h ⊢
      split_ifs at h with alone
      cases h
      rw [if_neg alone]
      exact ⟨back, rfl, rfl⟩
  · rintro ⟨some, empty, ends⟩
    apply lost
    refine ⟨some, empty, ?_⟩
    cases behind with
    | cons c behind => exact ends
    | nil =>
      -- a text that ends here ends in both cases, by `fewer`
      rcases ht.nil_or_cons with rfl | ⟨c, rest, rfl, mark⟩
      · rw [fewer rfl] at ends
        cases ends
      · exact endsAuthority_of_mark mark

lemma head?_percentEncode {set : Char → Bool} {c : Char}
    (h : (percentEncode set cs).head? = some c) : cs.head? = some c ∨ c = '%' := by
  cases cs with
  | nil => cases h
  | cons d cs =>
    obtain ⟨b, bs, bytes, -⟩ := utf8Step_utf8EncodeChar d []
    rw [percentEncode, List.flatMap_cons, bytes] at h
    split_ifs at h
    · cases h
      exact Or.inr rfl
    · exact Or.inl h

/-- The path of a text without an authority. -/
def lonePath (body : List Char) : Path :=
  match body with
  | '/' :: body => .rooted (readSegments .plain body)
  | body => .rootless (percentEncode inControlSet body)

lemma lonePath_of_rootless (h : body.head? ≠ some '/') :
    lonePath body = .rootless (percentEncode inControlSet body) := by
  rw [lonePath]
  rintro rest rfl
  exact h rfl

lemma readAfterScheme_lone (hk : schemeKind scheme = .plain) (h : ¬['/', '/'] <+: cs) :
    readAfterScheme scheme cs =
      .ok (assemble scheme none (lonePath (splitMarks cs).body) (splitMarks cs)) := by
  simp only [readAfterScheme, hk]
  split
  · exact absurd (List.prefix_append ['/', '/'] _) h
  · rfl

/-- Marks are not slashes. -/
lemma prefix_marksText_iff :
    ['/', '/'] <+: body ++ marksText query fragment ↔ ['/', '/'] <+: body := by
  refine ⟨fun h => prefix_of_prefix_append h ?_, fun h => h.trans (List.prefix_append _ _)⟩
  intro c hc
  rcases beginsMarked_marksText query fragment c hc with rfl | rfl <;> decide

section Query

variable (hb : Unmarked body) (hq : ∀ q ∈ query, '#' ∉ q) (hq' : ∀ q ∈ query', '#' ∉ q)
  (fewer : query = none → query' = none)

include hb hq hq' fewer

lemma readFromAuthority_other
    (h : readFromAuthority scheme (body ++ marksText query fragment) = .ok url) :
    readFromAuthority scheme (body ++ marksText query' fragment) =
      .ok { url with query := query'.map (percentEncode (querySet scheme)) } := by
  have fewer' : marksText query fragment = [] → marksText query' fragment = [] := by
    rw [marksText_eq_nil_iff, marksText_eq_nil_iff]
    exact And.imp_left fewer
  obtain ⟨⟨a, rest⟩, read, assembled⟩ := bind_eq_ok_iff.1 h
  obtain ⟨back, rfl, read'⟩ := readAuthority_other (beginsMarked_marksText query fragment)
    (beginsMarked_marksText query' fragment) fewer' read
  obtain ⟨-, front, whole, -⟩ := readAuthority_ok read
  rw [← List.append_assoc, List.append_cancel_right_eq] at whole
  have clear : Unmarked back := hb.subset (by simp [whole])
  dsimp only at assembled
  rw [splitMarks_marksText clear hq] at assembled
  cases assembled
  refine bind_eq_ok_iff.2 ⟨_, read', ?_⟩
  dsimp only
  rw [splitMarks_marksText clear hq']
  rfl

/-- The URL that is read behind a scheme is the same with any query. -/
lemma readAfterScheme_other
    (h : readAfterScheme scheme (body ++ marksText query fragment) = .ok url) :
    readAfterScheme scheme (body ++ marksText query' fragment) =
      .ok { url with query := query'.map (percentEncode (querySet scheme)) } := by
  obtain ⟨k, hk⟩ : ∃ k, schemeKind scheme = k := ⟨_, rfl⟩
  cases k with
  | file =>
    simp only [readAfterScheme, hk, splitMarks_marksText hb hq] at h
    simp only [readAfterScheme, hk, splitMarks_marksText hb hq']
    obtain ⟨⟨a, path⟩, read, assembled⟩ := bind_eq_ok_iff.1 h
    cases assembled
    exact bind_eq_ok_iff.2 ⟨_, read, rfl⟩
  | special port =>
    have slash : (schemeKind scheme).isSlash '?' = false ∧
        (schemeKind scheme).isSlash '#' = false := by
      rw [hk]
      exact ⟨rfl, rfl⟩
    rw [readAfterScheme_special hk, (takeWhile_append_of_stop
      ((beginsMarked_marksText _ _).stop slash.1 slash.2) body).2] at h ⊢
    exact readFromAuthority_other (hb.subset (List.dropWhile_suffix _).subset) hq hq' fewer h
  | plain =>
    by_cases slashes : ['/', '/'] <+: body
    · obtain ⟨body, rfl⟩ := slashes
      rw [List.append_assoc] at h ⊢
      rw [List.cons_append, List.cons_append, List.nil_append, readAfterScheme_plain hk] at h ⊢
      exact readFromAuthority_other (hb.subset (List.subset_append_right _ _)) hq hq' fewer h
    · rw [readAfterScheme_lone hk (by rwa [prefix_marksText_iff]), splitMarks_marksText hb hq] at h
      rw [readAfterScheme_lone hk (by rwa [prefix_marksText_iff]), splitMarks_marksText hb hq']
      cases h
      rfl

end Query

/-! ### Texts of URLs -/

lemma small_of_inScheme {c : Char} (h : inScheme c = true) :
    c.toLower.toLower = c.toLower ∧ (c.isAlpha = true → c.toLower.isAlpha = true) := by
  apply forall_ascii _ (ascii_of_inScheme h)
  decide +kernel

/-- A scheme that is read is read again. -/
lemma readScheme?_reread (h : readScheme? cs = some (scheme, body)) (rest : List Char) :
    readScheme? (scheme ++ ':' :: rest) = some (scheme, rest) := by
  have passed := inScheme_of_readScheme? h
  obtain ⟨word, -, letter, small, rfl⟩ := readScheme?_eq_some_iff.1 h
  refine readScheme?_eq_some_iff.2 ⟨_, rfl, ?_, passed, ?_⟩
  · cases word with
    | nil => cases letter
    | cons c word => exact (small_of_inScheme (small c List.mem_cons_self)).2 letter
  · rw [lowercase, lowercase, List.map_map]
    exact List.map_congr_left fun c hc => (small_of_inScheme (small c hc)).1.symm

/-- What is written behind the scheme is what is read behind it. -/
lemma parse_text (read : parse cs = .ok url) (scheme : other.scheme = url.scheme)
    (front : other.FrontEncoded) (delimited : other.Delimited) (ends : other.EndsVisibly) :
    parse other.text = readAfterScheme url.scheme
      (other.authorityText ++ other.path.text ++ marksText other.query other.fragment) := by
  have split : other.text = url.scheme ++ ':' ::
      (other.authorityText ++ other.path.text ++ marksText other.query other.fragment) := by
    rw [text_eq_front, Url.front, scheme]
    simp
  rw [parse, significant_text front delimited ends]
  rw [parse] at read
  cases named : readScheme? (significant cs) with
  | none =>
    rw [named] at read
    cases read
  | some parts =>
    obtain ⟨word, rest⟩ := parts
    rw [named] at read
    rw [← (readBehind_of_readAfterScheme read).scheme] at named
    rw [split, readScheme?_reread named]

/-- Only what has neither an authority nor a slash in front has a path without structure. -/
lemma rootless_of_readAfterScheme {text : List Char} (read : readAfterScheme scheme cs = .ok url)
    (path : url.path = .rootless text) :
    schemeKind scheme = .plain ∧ url.authority = none ∧ text.head? ≠ some '/' := by
  obtain ⟨k, hk⟩ : ∃ k, schemeKind scheme = k := ⟨_, rfl⟩
  -- behind an authority the path always has a root
  have rooted {cs : List Char} (read : readFromAuthority scheme cs = .ok url) : False := by
    obtain ⟨parts, -, assembled⟩ := bind_eq_ok_iff.1 read
    cases assembled
    cases path
  cases k with
  | file =>
    simp only [readAfterScheme, hk] at read
    obtain ⟨⟨a, p⟩, file, assembled⟩ := bind_eq_ok_iff.1 read
    obtain ⟨host, segments, rfl, rfl, -⟩ := readFile_ok file
    cases assembled
    dsimp only [assemble] at path
    rw [filePath] at path
    split at path <;> cases path
  | special port =>
    rw [readAfterScheme_special hk] at read
    exact (rooted read).elim
  | plain =>
    by_cases slashes : ['/', '/'] <+: cs
    · obtain ⟨rest, rfl⟩ := slashes
      rw [List.cons_append, List.cons_append, List.nil_append, readAfterScheme_plain hk] at read
      exact (rooted read).elim
    · rw [readAfterScheme_lone hk slashes] at read
      cases read
      refine ⟨hk, rfl, ?_⟩
      dsimp only [assemble] at path
      by_cases slash : (splitMarks cs).body.head? = some '/'
      · obtain ⟨body, whole⟩ := List.head?_eq_some_iff.1 slash
        rw [whole] at path
        cases path
      · rw [lonePath_of_rootless slash] at path
        cases path
        exact fun first => (head?_percentEncode first).elim slash (by decide)

lemma rootless_of_parse {text : List Char} (read : parse cs = .ok url)
    (path : url.path = .rootless text) :
    schemeKind url.scheme = .plain ∧ url.authority = none ∧ text.head? ≠ some '/' := by
  rw [parse] at read
  split at read
  · rw [(readBehind_of_readAfterScheme read).scheme]
    exact rootless_of_readAfterScheme read path
  · cases read

lemma assemble_eq_self {authority : Option Authority} {path : Path}
    (hq : ∀ q ∈ query, ∀ c ∈ q, querySet scheme c = false)
    (hf : ∀ f ∈ fragment, ∀ c ∈ f, inFragmentSet c = false) :
    assemble scheme authority path ⟨body, query, fragment⟩ =
      ⟨scheme, authority, path, query, fragment⟩ := by
  have query := map_percentEncode_eq_self hq
  have fragment := map_percentEncode_eq_self hf
  rw [querySet] at query
  rw [assemble, query, fragment]

/-- A path without structure is read as it is written. -/
lemma readAfterScheme_rootless {text : List Char} (hk : schemeKind scheme = .plain)
    (slash : text.head? ≠ some '/') (encoded : (Path.rootless text).Encoded)
    (hq : ∀ q ∈ query, ∀ c ∈ q, querySet scheme c = false)
    (hf : ∀ f ∈ fragment, ∀ c ∈ f, inFragmentSet c = false) :
    readAfterScheme scheme (text ++ marksText query fragment) =
      .ok ⟨scheme, none, .rootless text, query, fragment⟩ := by
  have slashes : ¬['/', '/'] <+: text := by
    rintro ⟨rest, rfl⟩
    exact slash rfl
  have number : ∀ q ∈ query, '#' ∉ q := by
    intro q hq' number
    exact absurd (inQuerySet_of_querySet (hq q hq' '#' number)) (by decide)
  rw [readAfterScheme_lone hk (by rwa [prefix_marksText_iff]),
    splitMarks_marksText encoded.1 number, lonePath_of_rootless slash,
    percentEncode_eq_self encoded.2, assemble_eq_self hq hf]

end NestedTx.Url
