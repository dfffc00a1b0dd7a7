import NestedTx.Proofs.Url.Address
import NestedTx.Proofs.Url.Rereading
import NestedTx.Proofs.Url.Segments

/-!
# URLs of plain schemes

The text of a URL whose scheme is not one of the web is read as that URL: user name, password, host
and port are found where they are written, and so is every segment of the path.
-/

namespace NestedTx.Url

open Text

variable {k : SchemeKind} {c : Char} {cs host rest tail : List Char}

/-! ### Hosts -/

lemma endsAuthority_plain_iff :
    SchemeKind.plain.endsAuthority c = true ↔ c = '/' ∨ c = '?' ∨ c = '#' := by
  simp [SchemeKind.endsAuthority, SchemeKind.isSlash, SchemeKind.isSpecial, or_assoc]

lemma encodeByte_allowed (b : UInt8) : ∀ c ∈ encodeByte b, isForbiddenInHost c = false := by
  rw [← List.forall_iff_forall_mem]
  revert b
  apply forall_byte
  decide +kernel

/-- A host is an address in brackets or a text of characters that may stand in one. -/
lemma plainHost_cases (h : plainHost cs = .ok host) :
    (∃ ps, host = ipv6Text ps ∧ bracketedHost cs = .ok host) ∨
      (∀ c ∈ host, isForbiddenInHost c = false) ∧ ∀ c ∈ host, inControlSet c = false := by
  rw [plainHost] at h
  split_ifs at h with bracket forbidden
  · left
    have read := h
    rw [bracketedHost] at h
    split_ifs at h
    split at h
    · cases h
      exact ⟨_, rfl, read⟩
    · cases h
  · right
    cases h
    constructor
    · intro c hc
      rcases mem_percentEncode hc with ⟨own, -⟩ | ⟨b, written⟩
      · exact not_isForbiddenInHost_of_any (Bool.eq_false_iff.2 forbidden) c own
      · exact encodeByte_allowed b c written
    · exact not_inSet_of_mem_percentEncode (fun _ => id) fun b c hc =>
        inControlSet_of_inFragmentSet (inFragmentSet_of_inPathSet
          (inPathSet_of_inUserinfoSet (encodeByte_plain b c hc).1))

/-- A host is read as itself. -/
lemma plainHost_reread (h : plainHost cs = .ok host) : plainHost host = .ok host := by
  rcases plainHost_cases h with ⟨ps, rfl, read⟩ | ⟨allowed, control⟩
  · rw [plainHost, if_pos (by rw [ipv6Text_eq]; rfl)]
    exact bracketedHost_reread read
  · have bracket : host.head? ≠ some '[' := by
      intro first
      exact absurd (allowed '[' (List.mem_of_mem_head? first)) (by decide)
    have none : host.any isForbiddenInHost = false := by simpa using allowed
    rw [plainHost, if_neg bracket, none, if_neg Bool.false_ne_true,
      percentEncode_eq_self control]

/-- Within a host nothing stops. -/
lemma splitHost_inside {front : List Char} {inBrackets : Bool}
    (h : ∀ c ∈ front, (c ≠ '[' ∧ c ≠ ']') ∧ k.endsAuthority c = false)
    (colon : inBrackets = false → ':' ∉ front) (cs : List Char) :
    splitHost k inBrackets (front ++ cs) =
      (front ++ (splitHost k inBrackets cs).1, (splitHost k inBrackets cs).2) := by
  induction front with
  | nil => rfl
  | cons c front ih =>
    obtain ⟨⟨⟨opening, closing⟩, inside⟩, others⟩ := List.forall_mem_cons.1 h
    have goes : ¬(c == ':' && !inBrackets || k.endsAuthority c) = true := by
      cases inBrackets with
      | true => simp [inside]
      | false =>
        have other : c ≠ ':' := by
          rintro rfl
          exact colon rfl List.mem_cons_self
        simp [inside, other]
    rw [List.cons_append, splitHost, if_neg goes]
    simp only [opening, closing, if_false]
    rw [ih others fun open' hc => colon open' (List.mem_cons_of_mem _ hc)]
    rfl

/-- Nothing that parts a URL is in the text of an address. -/
lemma not_mem_of_mem_ipv6Body {ps : List Nat} (h : c ∈ ipv6Body ps) :
    c ∉ ['[', ']', '@', '/', '?', '#'] := by
  intro hc
  have digit : ∀ m ∈ ['[', ']', '@', '/', '?', '#'], (∀ d < 16, d.digitChar ≠ m) ∧ ':' ≠ m := by
    rw [← List.forall_iff_forall_mem]
    decide +kernel
  exact not_mem_ipv6Body (digit c hc).1 (digit c hc).2 ps h

lemma not_mem_of_not_isForbiddenInHost (h : isForbiddenInHost c = false) :
    c ∉ [':', '[', ']', '@', '/', '?', '#'] :=
  not_mem_of_all (by decide +kernel) h

/-- Such a character is part of what is between brackets, or of a host without any. -/
lemma inside_of_not_mem (h : c ∉ ['[', ']', '@', '/', '?', '#']) :
    (c ≠ '[' ∧ c ≠ ']') ∧ SchemeKind.plain.endsAuthority c = false := by
  simp only [List.mem_cons, List.not_mem_nil, or_false, not_or] at h
  refine ⟨⟨h.1, h.2.1⟩, ?_⟩
  rw [Bool.eq_false_iff, ne_eq, endsAuthority_plain_iff]
  simp [h]

/-- A host is found in front of what ends it. -/
lemma splitHost_host (h : plainHost cs = .ok host)
    (stop : ∀ c ∈ tail.head?, c = ':' ∨ SchemeKind.plain.endsAuthority c = true) :
    splitHost .plain false (host ++ tail) = (host, tail) := by
  have ends : splitHost .plain false tail = ([], tail) := by
    cases tail with
    | nil => rfl
    | cons c rest => rcases stop c rfl with rfl | ends <;> simp [splitHost, *]
  -- colons within the brackets of an address do not end the host
  rcases plainHost_cases h with ⟨ps, rfl, -⟩ | ⟨allowed, -⟩
  · have closing : splitHost .plain true (']' :: tail) = ([']'], tail) := by
      show (']' :: (splitHost .plain false tail).1, (splitHost .plain false tail).2) = _
      rw [ends]
    have body : splitHost .plain true (ipv6Body ps ++ ']' :: tail) =
        (ipv6Body ps ++ [']'], tail) := by
      rw [splitHost_inside (fun c hc => inside_of_not_mem (not_mem_of_mem_ipv6Body hc)) (by simp),
        closing]
    have whole : ipv6Text ps ++ tail = '[' :: (ipv6Body ps ++ ']' :: tail) := by
      rw [ipv6Text_eq]
      simp
    rw [whole]
    show ('[' :: (splitHost .plain true (ipv6Body ps ++ ']' :: tail)).1,
      (splitHost .plain true (ipv6Body ps ++ ']' :: tail)).2) = _
    rw [body]
    rfl
  · have plain : ∀ c ∈ host, c ∉ [':', '[', ']', '@', '/', '?', '#'] :=
      fun c hc => not_mem_of_not_isForbiddenInHost (allowed c hc)
    rw [splitHost_inside, ends, List.append_nil]
    · exact fun c hc => inside_of_not_mem (List.not_mem_of_not_mem_cons (plain c hc))
    · exact fun _ colon => plain ':' colon List.mem_cons_self

lemma at_not_mem_of_plainHost (h : plainHost cs = .ok host) : '@' ∉ host := by
  rcases plainHost_cases h with ⟨ps, rfl, -⟩ | ⟨allowed, -⟩
  · rw [ipv6Text_eq]
    have body : '@' ∉ ipv6Body ps := fun hc => not_mem_of_mem_ipv6Body hc (by decide)
    simpa using body
  · exact fun hc => not_mem_of_not_isForbiddenInHost (allowed '@' hc) (by decide)

/-! ### Ports -/

lemma foldlM_digit? (acc : Nat) (cs : List Char) :
    cs.foldlM (fun acc c => (digit? c).map (10 * acc + ·)) acc = digitsValue? acc cs := by
  induction cs generalizing acc with
  | nil => rfl
  | cons c cs ih =>
    rw [List.foldlM_cons, digitsValue?]
    cases digit? c with
    | none => rfl
    | some d => exact ih _

/-- A port is read as itself. -/
lemma readPort_decimal {port : Nat} {usual : Option Nat} (small : port ≤ 65535)
    (other : usual ≠ some port)
    (stop : ∀ c ∈ tail.head?, SchemeKind.plain.endsAuthority c = true) :
    readPort usual (decimal port ++ tail) = .ok (some port, tail) := by
  have digits : ∀ c ∈ decimal port, isDigit c = true := by
    intro c hc
    rw [isDigit, digit?_of_isDigit (isDigit_of_mem_decimal hc)]
    rfl
  have ends : ∀ c ∈ tail.head?, isDigit c = false := by
    intro c hc
    rcases endsAuthority_plain_iff.1 (stop c hc) with rfl | rfl | rfl <;> rfl
  have value : readPort.digits? (decimal port) = some port := by
    rw [readPort.digits?, foldlM_digit?, digitsValue?_decimal]
  -- the usual port would be left out, and this is another one
  have kept : readPort.port usual (decimal port) port = some port := by
    have nonempty : decimal port ≠ [] := Nat.toDigits_ne_nil
    rw [readPort.port, if_neg]
    simp [nonempty, other]
  obtain ⟨front, behind⟩ := takeWhile_append_of_stop ends []
  rw [List.nil_append, List.takeWhile_nil] at front
  rw [List.nil_append, List.dropWhile_nil, List.nil_append] at behind
  simp only [readPort, List.takeWhile_append_of_pos digits, List.dropWhile_append_of_pos digits,
    front, behind, List.append_nil, value, Option.getD_some, kept]
  rw [if_neg (Nat.not_lt.2 small)]
  cases tail with
  | nil => rfl
  | cons c rest =>
    dsimp only [List.head?_cons]
    rw [if_pos]
    have ends := endsAuthority_plain_iff.1 (stop c rfl)
    tauto

/-! ### Authorities -/

lemma not_endsAuthority_of_inUserinfoSet (h : inUserinfoSet c = false) :
    k.endsAuthority c = false := by
  have other : c ∉ ['/', '\\', '?', '#'] := not_mem_of_all (by decide +kernel) h
  simp only [List.mem_cons, List.not_mem_nil, or_false, not_or] at other
  simp [SchemeKind.endsAuthority, SchemeKind.isSlash, other]

lemma colon_not_mem_of_inUserinfoSet (h : ∀ c ∈ cs, inUserinfoSet c = false) : ':' ∉ cs :=
  fun colon => absurd (h ':' colon) (by decide)

/-- What is written in front of a host is nothing, or user name and password with an `@`. -/
lemma Authority.Encoded.credentials_cases {a : Authority} (h : a.Encoded k) :
    (a.credentials = [] ∧ a.username = [] ∧ a.password = none) ∨
      ∃ userinfo, a.credentials = userinfo ++ ['@'] ∧ userinfo ≠ [] ∧
        (∀ c ∈ userinfo, k.endsAuthority c = false) ∧
        readUserinfo userinfo = (a.username, a.password) := by
  obtain ⟨user, password, host, port⟩ := a
  have encoded : ∀ c ∈ user, inUserinfoSet c = false := h.username
  have colon := colon_not_mem_of_inUserinfoSet encoded
  have inside : ∀ c ∈ user, k.endsAuthority c = false :=
    fun c hc => not_endsAuthority_of_inUserinfoSet (encoded c hc)
  cases password with
  | none =>
    cases user with
    | nil => exact Or.inl ⟨rfl, rfl, rfl⟩
    | cons c user =>
      refine Or.inr ⟨c :: user, rfl, List.cons_ne_nil _ _, inside, ?_⟩
      rw [readUserinfo, splitFirst?_eq_none_iff.2 colon]
      simp only [percentEncode_eq_self encoded]
  | some password =>
    obtain ⟨some, secret⟩ := h.password password rfl
    refine Or.inr ⟨user ++ ':' :: password, ?_, by simp, ?_, ?_⟩
    · cases user <;> rfl
    · rw [List.forall_mem_append, List.forall_mem_cons]
      exact ⟨inside, by cases k <;> rfl,
        fun c hc => not_endsAuthority_of_inUserinfoSet (secret c hc)⟩
    -- the user name has no colon, so the first one divides the two
    · rw [readUserinfo, splitFirst?_append colon, splitFirst?_cons_self]
      simp [percentEncode_eq_self encoded, percentEncode_eq_self secret, some]

/-- A port behind its colon, or nothing. -/
def portText : Option Nat → List Char
  | some port => ':' :: decimal port
  | none => []

lemma Authority.text_eq (a : Authority) :
    a.text = a.credentials ++ (a.host ++ portText a.port) := by
  rw [← List.append_assoc]
  rfl

lemma Authority.Encoded.exists_plainHost {a : Authority} (h : a.Encoded .plain) :
    ∃ cs, plainHost cs = .ok a.host := by
  rcases h.host with empty | read
  · exact ⟨[], by rw [empty]; rfl⟩
  · exact read

/-- A host and a port are read as they are written. -/
lemma readEndpoint_text {a : Authority} (h : a.Encoded .plain)
    (stop : ∀ c ∈ tail.head?, SchemeKind.plain.endsAuthority c = true) :
    readEndpoint .plain (a.host ++ portText a.port ++ tail) = .ok (a.host, a.port, tail) := by
  obtain ⟨cs, read⟩ := h.exists_plainHost
  have again : readHost .plain a.host = .ok a.host := plainHost_reread read
  rw [List.append_assoc]
  cases hp : a.port with
  | none =>
    have cut := splitHost_host read fun c hc => Or.inr (stop c hc)
    rw [portText, List.nil_append, readEndpoint_of_host (by rwa [cut]), cut]
    rw [cut]
    intro colon
    exact absurd (stop ':' colon) (by decide)
  | some port =>
    obtain ⟨small, other⟩ := h.port port hp
    -- an empty host has no port behind it
    have some : a.host ≠ [] := by
      intro empty
      rw [(h.alone empty).2.2] at hp
      cases hp
    have colon : ∀ c ∈ (':' :: decimal port ++ tail).head?,
        c = ':' ∨ SchemeKind.plain.endsAuthority c = true := by
      rintro c hc
      cases hc
      exact Or.inl rfl
    have cut := splitHost_host read colon
    rw [portText, readEndpoint_of_port (by rwa [cut]) (by rw [cut, List.cons_append]),
      if_neg some, readPort_decimal small other stop]
    rfl

lemma at_not_mem_portText (port : Option Nat) : '@' ∉ portText port := by
  cases port with
  | none => exact List.not_mem_nil
  | some port =>
    rw [portText, List.mem_cons, not_or]
    exact ⟨by decide, fun digit => absurd (isDigit_of_mem_decimal digit) (by decide)⟩

/-- An authority is read as it is written. -/
lemma readAuthority_text {a : Authority} (h : a.Encoded .plain)
    (stop : ∀ c ∈ tail.head?, SchemeKind.plain.endsAuthority c = true) :
    readAuthority .plain (a.text ++ tail) = .ok (a, tail) := by
  obtain ⟨cs, read⟩ := h.exists_plainHost
  have alone : ¬(a.host = [] ∧ (a.username ≠ [] ∨ a.password.isSome)) := by
    rintro ⟨empty, some⟩
    obtain ⟨user, password, -⟩ := h.alone empty
    simp [user, password] at some
  -- neither host nor port holds an at sign, so the one written is the last one
  have last : '@' ∉ (a.host ++ portText a.port ++ tail).takeWhile
      fun c => !SchemeKind.plain.endsAuthority c := by
    rw [(takeWhile_append_of_stop (fun c hc => by simp [stop c hc]) _).1]
    intro hc
    rcases List.mem_append.1 ((List.takeWhile_prefix _).subset hc) with hc | hc
    · exact at_not_mem_of_plainHost read hc
    · exact at_not_mem_portText a.port hc
  rw [Authority.text_eq, List.append_assoc]
  rcases h.credentials_cases with ⟨none, user, password⟩ | ⟨userinfo, some, full, inside, own⟩
  · have own : readUserinfo [] = (a.username, a.password) := by
      rw [user, password]
      rfl
    rw [none, List.nil_append, readAuthority, splitUserinfo?_eq_none_iff.2 last]
    simp only [Option.getD_none, own, readEndpoint_text h stop]
    rw [if_neg (by simp)]
    exact if_neg alone
  · have cut := splitUserinfo?_eq_some_iff.2 ⟨rfl, inside, last⟩
    rw [some, List.append_assoc, List.singleton_append, readAuthority, cut]
    simp only [Option.getD_some, own, full, readEndpoint_text h stop]
    rw [if_neg (by simp)]
    exact if_neg alone

/-! ### URLs -/

variable {scheme : List Char} {url : Url} {segments : List (List Char)}
  {query fragment : Option (List Char)}

/-- The segments that are read are settled, and without an authority there is one at least. -/
lemma settled_of_readAfterScheme (hk : schemeKind scheme = .plain)
    (read : readAfterScheme scheme cs = .ok url) (path : url.path = .rooted segments) :
    (∀ s ∈ segments, Settled s) ∧ (url.authority = none → segments ≠ []) := by
  by_cases slashes : ['/', '/'] <+: cs
  · obtain ⟨rest, rfl⟩ := slashes
    rw [List.cons_append, List.cons_append, List.nil_append, readAfterScheme_plain hk] at read
    obtain ⟨⟨a, behind⟩, -, assembled⟩ := bind_eq_ok_iff.1 read
    cases assembled
    cases path
    refine ⟨?_, nofun⟩
    rw [hk]
    exact settled_segmentsAfterAuthority _
  · rw [readAfterScheme_lone hk slashes] at read
    cases read
    by_cases slash : (splitMarks cs).body.head? = some '/'
    · obtain ⟨rest, body⟩ := List.head?_eq_some_iff.1 slash
      rw [assemble, body] at path
      cases path
      exact ⟨settled_readSegments rest, fun _ => readSegments_ne_nil rest⟩
    · rw [assemble, lonePath_of_rootless slash] at path
      cases path

/-- Without an authority the path is found behind the scheme, and does not look like one. -/
lemma lonePath_text (h : ∀ s ∈ segments, Settled s) (some : segments ≠ [])
    (lone : url.authority = none) (path : url.path = .rooted segments) :
    ¬['/', '/'] <+: url.authorityText ++ (Path.rooted segments).text ∧
      lonePath (url.authorityText ++ (Path.rooted segments).text) = .rooted segments := by
  obtain ⟨s, rest, rfl⟩ := List.exists_cons_of_ne_nil some
  have own := readSegments_text h
  rw [authorityText, lone, path]
  rcases s with - | ⟨c, s⟩
  · rcases rest with - | ⟨t, rest⟩
    · exact ⟨by decide, rfl⟩
    · refine ⟨?_, congrArg Path.rooted (readSegments_dot h)⟩
      rintro ⟨more, whole⟩
      cases whole
  · refine ⟨?_, congrArg Path.rooted own⟩
    rintro ⟨more, whole⟩
    have slash : c = '/' := by
      cases whole
      rfl
    exact (List.forall_mem_cons.1 h).1.whole (slash ▸ List.mem_cons_self)

/-- The text of a URL with a plain scheme is read as the URL. -/
theorem parse_text_of_plain (read : parse cs = .ok url) (hk : schemeKind url.scheme = .plain)
    (path : url.path = .rooted segments) : parse url.text = .ok url := by
  have front := frontEncoded_of_parse read
  have delimited := delimited_of_parse read
  -- only a path without a root could end in a blank
  have ends : url.EndsVisibly := by
    intro text rootless
    rw [path] at rootless
    cases rootless
  have settled : (∀ s ∈ segments, Settled s) ∧ (url.authority = none → segments ≠ []) := by
    rw [parse] at read
    split at read
    · have scheme := (readBehind_of_readAfterScheme read).scheme
      exact settled_of_readAfterScheme (scheme ▸ hk) read path
    · cases read
  have query : ∀ q ∈ url.query, ∀ c ∈ q, querySet url.scheme c = false := by
    rw [querySet, hk]
    exact delimited.query
  have clear : Unmarked url.path.text := front.path.unmarked
  rw [parse_text read rfl front delimited ends]
  cases lone : url.authority with
  | none =>
    -- without an authority the path must not look like one when it is read again
    obtain ⟨slashes, again⟩ := lonePath_text settled.1 (settled.2 lone) lone path
    rw [← path] at slashes again
    have body : Unmarked (url.authorityText ++ url.path.text) :=
      delimited.front.subset (by simp [Url.front])
    rw [readAfterScheme_lone hk (by rwa [prefix_marksText_iff]),
      splitMarks_marksText body delimited.number_not_mem, again,
      assemble_eq_self query delimited.fragment, ← lone]
  | some a =>
    have encoded : a.Encoded .plain := hk ▸ front.authority a lone
    have stop : ∀ c ∈ (url.path.text ++ marksText url.query url.fragment).head?,
        SchemeKind.plain.endsAuthority c = true := by
      rw [path]
      cases segments with
      | nil => exact fun c hc => endsAuthority_of_mark (beginsMarked_marksText _ _ c hc)
      | cons s rest =>
        rintro c hc
        cases hc
        rfl
    have read := readAuthority_text encoded stop
    have written : url.authorityText ++ url.path.text ++ marksText url.query url.fragment =
        '/' :: '/' :: (a.text ++ (url.path.text ++ marksText url.query url.fragment)) := by
      rw [authorityText, lone]
      simp
    rw [written, readAfterScheme_plain hk]
    refine bind_eq_ok_iff.2 ⟨_, by rw [hk]; exact read, ?_⟩
    dsimp only
    rw [splitMarks_marksText clear delimited.number_not_mem, hk, path,
      segmentsAfterAuthority_text settled.1, assemble_eq_self query delimited.fragment, ← lone,
      ← path]
    rfl

end NestedTx.Url
