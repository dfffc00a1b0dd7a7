import Mathlib.Tactic.Common
import NestedTx.Proofs.Url.Host
import NestedTx.Url.Parser

/-!
# Passwords in URLs

A password stands between the first colon behind the user name and the last `@` of the authority.
Whatever it is, the rest of the URL is read alike; and nothing else is read as a password.
-/

namespace NestedTx.Url

open Text

/-- What a step that can fail gives, and then what follows on it. -/
lemma bind_eq_ok_iff {ε α β : Type} {x : Except ε α} {next : α → Except ε β} {b : β} :
    x >>= next = .ok b ↔ ∃ a, x = .ok a ∧ next a = .ok b := by
  constructor
  · intro h
    cases x with
    | error e => cases h
    | ok a => exact ⟨a, rfl, h⟩
  · rintro ⟨a, rfl, h⟩
    exact h

/-! ### First marks -/

lemma splitFirst?_append {c : Char} {front cs : List Char} (h : c ∉ front) :
    splitFirst? c (front ++ cs) = (splitFirst? c cs).map fun (a, b) => (front ++ a, b) := by
  have passed : ∀ b ∈ front, (b != c) = true := by
    intro b hb
    rw [bne_iff_ne]
    rintro rfl
    exact h hb
  rw [splitFirst?, splitFirst?, List.dropWhile_append_of_pos passed,
    List.takeWhile_append_of_pos passed]
  cases cs.dropWhile (· != c) <;> rfl

lemma splitFirst?_cons_self (c : Char) (cs : List Char) :
    splitFirst? c (c :: cs) = some ([], cs) := by
  simp [splitFirst?]

/-- What is cut at a mark is the text in front of the first one and the text behind it. -/
lemma eq_append_of_splitFirst? {c : Char} {cs before behind : List Char}
    (h : splitFirst? c cs = some (before, behind)) : cs = before ++ c :: behind ∧ c ∉ before := by
  rw [splitFirst?] at h
  cases hd : cs.dropWhile (· != c) with
  | nil =>
    rw [hd] at h
    cases h
  | cons b rest =>
    rw [hd] at h
    cases h
    have mark : b = c := by
      have first := List.head?_dropWhile_not (· != c) cs
      rw [hd] at first
      simpa using first
    constructor
    · subst mark
      rw [← hd, List.takeWhile_append_dropWhile]
    · intro hc
      have passed := List.all_eq_true.1 List.all_takeWhile c hc
      simp at passed

lemma splitFirst?_eq_none_iff {c : Char} {cs : List Char} :
    splitFirst? c cs = none ↔ c ∉ cs := by
  constructor
  · intro h hc
    obtain ⟨front, back, rfl, first⟩ := List.eq_append_cons_of_mem hc
    rw [splitFirst?_append first, splitFirst?_cons_self] at h
    cases h
  · intro h
    rw [← List.append_nil cs, splitFirst?_append h]
    rfl

lemma splitMarks_append {front cs : List Char} (hf : '#' ∉ front) (hq : '?' ∉ front) :
    splitMarks (front ++ cs) =
      { splitMarks cs with body := front ++ (splitMarks cs).body } := by
  simp only [splitMarks, splitFirst?_append hf]
  rcases splitFirst? '#' cs with _ | ⟨body, fragment⟩
  · simp only [Option.map_none, splitFirst?_append hq]
    cases splitFirst? '?' cs <;> rfl
  · simp only [Option.map_some, splitFirst?_append hq]
    cases splitFirst? '?' body <;> rfl

/-! ### The place of a password -/

/-- Can the text stand as a password in an authority? -/
def SchemeKind.IsPassword (k : SchemeKind) (password : List Char) : Prop :=
  password ≠ [] ∧ ∀ c ∈ password, k.endsAuthority c = false

/-- Are these the slashes that an authority stands behind? -/
def SchemeKind.Opens (k : SchemeKind) (slashes : List Char) : Prop :=
  match k with
  | .plain => slashes = ['/', '/']
  | .special _ => ∀ c ∈ slashes, k.isSlash c = true
  | .file => ∃ a b, slashes = [a, b] ∧ k.isSlash a = true ∧ k.isSlash b = true

/-- A URL behind the colon of its scheme, around a password: the slashes and the user name in front
of it, and the host and what follows it. The last `@` of the authority is the one behind the
password. -/
structure Frame (k : SchemeKind) where
  slashes : List Char
  user : List Char
  host : List Char
  opens : k.Opens slashes
  user_colon : ':' ∉ user
  user_inside : ∀ c ∈ user, k.endsAuthority c = false
  host_last : '@' ∉ host.takeWhile fun c => !k.endsAuthority c

namespace Frame

variable {k : SchemeKind} (f : Frame k)

/-- What is in front of the `@`. -/
def userinfo (password : List Char) : List Char :=
  f.user ++ ':' :: password

/-- The text with a password in it. -/
def fill (password : List Char) : List Char :=
  f.slashes ++ (f.userinfo password ++ '@' :: f.host)

lemma userinfo_inside {p : List Char} (hp : k.IsPassword p) :
    ∀ c ∈ f.userinfo p, k.endsAuthority c = false := by
  intro c hc
  rcases List.mem_append.1 hc with hc | hc
  · exact f.user_inside c hc
  · rcases List.mem_cons.1 hc with rfl | hc
    · cases k <;> rfl
    · exact hp.2 c hc

end Frame

/-! ### Reading the authority -/

variable {k : SchemeKind} {f : Frame k} {p q : List Char}

/-- A text without an `@` in its authority. -/
lemma splitUserinfo?_eq_none_iff {cs : List Char} :
    splitUserinfo? k cs = none ↔ '@' ∉ cs.takeWhile fun c => !k.endsAuthority c := by
  induction cs with
  | nil => exact iff_of_true rfl List.not_mem_nil
  | cons c rest ih =>
    by_cases ends : k.endsAuthority c = true
    · rw [splitUserinfo?, if_pos ends, List.takeWhile_cons_of_neg (by simp [ends])]
      exact iff_of_true rfl List.not_mem_nil
    · rw [splitUserinfo?, if_neg ends, List.takeWhile_cons_of_pos (by simp [ends]), List.mem_cons,
        not_or, ← ih]
      cases splitUserinfo? k rest with
      | none => simp [eq_comm]
      | some parts => simp

lemma endsAuthority_at (k : SchemeKind) : k.endsAuthority '@' = false := by
  cases k <;> rfl

/-- The text is cut at the last `@` of an authority. -/
lemma splitUserinfo?_eq_some_iff {cs userinfo host : List Char} :
    splitUserinfo? k cs = some (userinfo, host) ↔
      cs = userinfo ++ '@' :: host ∧ (∀ c ∈ userinfo, k.endsAuthority c = false) ∧
        '@' ∉ host.takeWhile fun c => !k.endsAuthority c := by
  constructor
  · intro h
    induction cs generalizing userinfo with
    | nil => cases h
    | cons c rest ih =>
      have ends : ¬k.endsAuthority c = true := by
        intro ends
        rw [splitUserinfo?, if_pos ends] at h
        cases h
      rw [splitUserinfo?, if_neg ends] at h
      cases hr : splitUserinfo? k rest with
      | some parts =>
        obtain ⟨user, behind⟩ := parts
        rw [hr] at h
        cases h
        -- an at sign behind this one: the later split is the one that is taken
        obtain ⟨rfl, inside, last⟩ := ih hr
        exact ⟨rfl, List.forall_mem_cons.2 ⟨Bool.eq_false_iff.2 ends, inside⟩, last⟩
      | none =>
        rw [hr] at h
        obtain ⟨rfl, cut⟩ := Option.ite_none_right_eq_some.1 h
        cases cut
        exact ⟨rfl, List.forall_mem_nil _, splitUserinfo?_eq_none_iff.1 hr⟩
  · rintro ⟨rfl, inside, last⟩
    induction userinfo with
    | nil =>
      rw [List.nil_append, splitUserinfo?, endsAuthority_at, if_neg Bool.false_ne_true,
        splitUserinfo?_eq_none_iff.2 last]
      rfl
    | cons c rest ih =>
      obtain ⟨first, others⟩ := List.forall_mem_cons.1 inside
      rw [List.cons_append, splitUserinfo?, first, if_neg Bool.false_ne_true, ih others]

/-- The first colon parts user name and password. -/
lemma readUserinfo_userinfo (hp : p ≠ []) :
    readUserinfo (f.userinfo p) =
      (percentEncode inUserinfoSet f.user, some (percentEncode inUserinfoSet p)) := by
  simp [readUserinfo, Frame.userinfo, splitFirst?_append f.user_colon, splitFirst?_cons_self, hp]

/-- An authority with another password. -/
def Authority.withPassword (password : List Char) (a : Authority) : Authority :=
  { a with password := some password }

/-- With a password, an authority is user name and password and then a host, which is not empty. -/
lemma readAuthority_frame (hp : k.IsPassword p) :
    readAuthority k (f.userinfo p ++ '@' :: f.host) =
      (readEndpoint k f.host).bind fun (host, port, rest) =>
        if host = [] then .error .emptyHost
        else .ok (⟨percentEncode inUserinfoSet f.user, some (percentEncode inUserinfoSet p), host,
          port⟩, rest) := by
  have nonempty : f.userinfo p ≠ [] := by simp [Frame.userinfo]
  have cut := splitUserinfo?_eq_some_iff.2 ⟨rfl, f.userinfo_inside hp, f.host_last⟩
  simp only [readAuthority, cut, Option.getD_some, nonempty, false_and, and_false, if_false,
    readUserinfo_userinfo hp.1, Option.isSome_some, or_true, and_true]
  rfl

/-- Another password is read as itself and changes nothing else. -/
lemma readAuthority_password (hp : k.IsPassword p) (hq : k.IsPassword q) :
    readAuthority k (f.userinfo q ++ '@' :: f.host) =
      (readAuthority k (f.userinfo p ++ '@' :: f.host)).map fun (a, rest) =>
        (a.withPassword (percentEncode inUserinfoSet q), rest) := by
  rw [readAuthority_frame hp, readAuthority_frame hq]
  rcases readEndpoint k f.host with e | ⟨host, port, rest⟩
  · rfl
  · show (if host = [] then _ else _) = Except.map _ (if host = [] then _ else _)
    split_ifs <;> rfl

/-! ### Reading the URL -/

/-- A URL with another password, if it has an authority. -/
def withPassword (password : List Char) (url : Url) : Url :=
  { url with authority := url.authority.map (Authority.withPassword password) }

/-- What follows an authority is the same behind any password. -/
lemma readFromAuthority_password {scheme : List Char} {f : Frame (schemeKind scheme)}
    (hp : (schemeKind scheme).IsPassword p) (hq : (schemeKind scheme).IsPassword q) :
    readFromAuthority scheme (f.userinfo q ++ '@' :: f.host) =
      (readFromAuthority scheme (f.userinfo p ++ '@' :: f.host)).map
        (withPassword (percentEncode inUserinfoSet q)) := by
  rw [readFromAuthority, readFromAuthority, readAuthority_password hp hq]
  cases readAuthority (schemeKind scheme) (f.userinfo p ++ '@' :: f.host) <;> rfl

lemma readFromAuthority_ok {scheme cs : List Char} {url : Url}
    (h : readFromAuthority scheme cs = .ok url) :
    ∃ a rest, readAuthority (schemeKind scheme) cs = .ok (a, rest) ∧ url.scheme = scheme ∧
      url.authority = some a := by
  obtain ⟨⟨a, rest⟩, read, assembled⟩ := bind_eq_ok_iff.1 h
  cases assembled
  exact ⟨a, rest, read, rfl, rfl⟩

/-- What does not end an authority is no slash, and no mark of a query or a fragment. -/
lemma not_mark_of_inside {c : Char} (h : k.endsAuthority c = false) :
    k.isSlash c = false ∧ c ≠ '?' ∧ c ≠ '#' := by
  simpa [SchemeKind.endsAuthority, and_assoc] using h

/-- A file has no host with an `@` in it. -/
lemma readFile_at {a b c : Char} {rest : List Char} (ha : SchemeKind.file.isSlash a = true)
    (hb : SchemeKind.file.isSlash b = true) (hc : SchemeKind.file.isSlash c = false)
    (h : '@' ∈ rest.takeWhile fun c => !SchemeKind.file.isSlash c)
    (long : 2 ≤ (rest.takeWhile fun c => !SchemeKind.file.isSlash c).length) :
    readFile (a :: b :: c :: rest) =
      .error (if c = '[' then .invalidIpv6Address else .invalidDomainName) := by
  have hostText : (c :: rest).takeWhile (fun c => !SchemeKind.file.isSlash c) =
      c :: rest.takeWhile fun c => !SchemeKind.file.isSlash c := by
    rw [List.takeWhile_cons_of_pos (by simp [hc])]
  have noDrive :
      isDriveLetter (c :: rest.takeWhile fun c => !SchemeKind.file.isSlash c) = false := by
    rw [isDriveLetter]
    rintro c m hd
    rw [List.cons.injEq] at hd
    rw [hd.2] at long
    exact absurd long (Nat.lt_irrefl 1)
  simp only [readFile, ha, hb, Bool.and_self, if_true, hostText, noDrive, Bool.false_eq_true,
    if_false, reduceCtorEq, domainHost_at (List.mem_cons_of_mem c h), List.head?_cons,
    Option.some.injEq]
  rfl

lemma SchemeKind.Opens.isSlash {slashes : List Char} (h : k.Opens slashes) :
    ∀ c ∈ slashes, k.isSlash c = true := by
  cases k with
  | plain =>
    obtain rfl : slashes = ['/', '/'] := h
    exact List.forall_mem_cons.2 ⟨rfl, List.forall_mem_singleton.2 rfl⟩
  | special port => exact h
  | file =>
    obtain ⟨a, b, rfl, ha, hb⟩ := h
    exact List.forall_mem_cons.2 ⟨ha, List.forall_mem_singleton.2 hb⟩

variable {scheme : List Char}

lemma readAfterScheme_plain (hk : schemeKind scheme = .plain) (cs : List Char) :
    readAfterScheme scheme ('/' :: '/' :: cs) = readFromAuthority scheme cs := by
  simp only [readAfterScheme, hk]

lemma readAfterScheme_special {port : Nat} (hk : schemeKind scheme = .special port)
    (cs : List Char) :
    readAfterScheme scheme cs =
      readFromAuthority scheme (cs.dropWhile (schemeKind scheme).isSlash) := by
  simp only [readAfterScheme, hk]

lemma readAfterScheme_file (hk : schemeKind scheme = .file) {cs : List Char} {e : UrlError}
    (h : readFile (splitMarks cs).body = .error e) : readAfterScheme scheme cs = .error e := by
  simp only [readAfterScheme, hk, h]
  rfl

/-- The slashes end where the user name begins. -/
lemma dropWhile_fill (f : Frame k) (hp : k.IsPassword p) :
    (f.fill p).dropWhile k.isSlash = f.userinfo p ++ '@' :: f.host := by
  rw [Frame.fill, List.dropWhile_append_of_pos f.opens.isSlash]
  cases hu : f.userinfo p with
  | nil => simp [Frame.userinfo] at hu
  | cons c rest =>
    have inside := f.userinfo_inside hp c (by simp [hu])
    rw [List.cons_append, List.dropWhile_cons_of_neg (by simp [not_mark_of_inside inside])]

/-- The first character in front of a password does not depend on it. -/
lemma userinfo_eq_cons (f : Frame k) (hp : p ≠ []) :
    ∃ c rest, f.userinfo p = c :: rest ∧ (f.userinfo []).head? = some c ∧ rest ≠ [] := by
  rw [Frame.userinfo, Frame.userinfo]
  cases f.user with
  | nil => exact ⟨':', p, rfl, rfl, hp⟩
  | cons c user => exact ⟨c, user ++ ':' :: p, rfl, rfl, by simp⟩

/-- What is taken for the host of a file is refused for its `@`. -/
lemma readFile_fill (f : Frame k) (file : k = .file) (hp : k.IsPassword p) :
    readFile (splitMarks (f.fill p)).body =
      .error (if (f.userinfo []).head? = some '[' then .invalidIpv6Address
        else .invalidDomainName) := by
  subst file
  obtain ⟨a, b, slashes, ha, hb⟩ := f.opens
  obtain ⟨c, rest, whole, first, more⟩ := userinfo_eq_cons f hp.1
  have inside := f.userinfo_inside hp
  rw [whole] at inside
  have fill : f.fill p = f.slashes ++ f.userinfo p ++ ['@'] ++ f.host := by
    simp [Frame.fill]
  have unmarked {m : Char} (hs : SchemeKind.file.isSlash m = false)
      (hm : SchemeKind.file.endsAuthority m = true) (ha : m ≠ '@') :
      m ∉ f.slashes ++ f.userinfo p ++ ['@'] := by
    rw [List.mem_append, List.mem_append, List.mem_singleton]
    rintro ((slash | within) | rfl)
    · rw [f.opens.isSlash m slash] at hs
      cases hs
    · rw [f.userinfo_inside hp m within] at hm
      cases hm
    · exact ha rfl
  have body : (splitMarks (f.fill p)).body =
      a :: b :: c :: (rest ++ '@' :: (splitMarks f.host).body) := by
    rw [fill, splitMarks_append (unmarked rfl rfl (by decide)) (unmarked rfl rfl (by decide)),
      slashes, whole]
    simp
  -- the at sign is no slash, so it falls within the host and makes it invalid
  have host : (rest ++ '@' :: (splitMarks f.host).body).takeWhile
      (fun c => !SchemeKind.file.isSlash c) =
        rest ++ '@' :: (splitMarks f.host).body.takeWhile fun c => !SchemeKind.file.isSlash c := by
    have passed : ∀ x ∈ rest, (!SchemeKind.file.isSlash x) = true := by
      intro x hx
      rw [(not_mark_of_inside (inside x (List.mem_cons_of_mem c hx))).1]
      rfl
    rw [List.takeWhile_append_of_pos passed, List.takeWhile_cons_of_pos rfl]
  rw [body, readFile_at ha hb (not_mark_of_inside (inside c List.mem_cons_self)).1, first]
  · simp only [Option.some.injEq]
  · rw [host]
    simp
  · rw [host]
    have := List.length_pos_iff.2 more
    simp only [List.length_append, List.length_cons]
    omega

/-- Around a password either nothing is read, or an authority and what follows it. -/
lemma readAfterScheme_fill (f : Frame (schemeKind scheme)) :
    (∃ e, ∀ {p}, (schemeKind scheme).IsPassword p →
      readAfterScheme scheme (f.fill p) = .error e) ∨
    ∀ {p}, (schemeKind scheme).IsPassword p →
      readAfterScheme scheme (f.fill p) =
        readFromAuthority scheme (f.userinfo p ++ '@' :: f.host) := by
  obtain ⟨k, hk⟩ : ∃ k, schemeKind scheme = k := ⟨_, rfl⟩
  cases k with
  | plain =>
    right
    intro p _
    have opens := f.opens
    simp only [hk] at opens
    rw [Frame.fill, show f.slashes = ['/', '/'] from opens]
    exact readAfterScheme_plain hk _
  | special port =>
    right
    intro p hp
    rw [readAfterScheme_special hk, dropWhile_fill f hp]
  | file =>
    left
    exact ⟨_, fun hp => readAfterScheme_file hk (readFile_fill f hk hp)⟩

/-- Another password in a URL is read as itself and changes nothing else. -/
lemma readAfterScheme_password (f : Frame (schemeKind scheme))
    (hp : (schemeKind scheme).IsPassword p) (hq : (schemeKind scheme).IsPassword q) :
    readAfterScheme scheme (f.fill q) =
      (readAfterScheme scheme (f.fill p)).map (withPassword (percentEncode inUserinfoSet q)) := by
  rcases readAfterScheme_fill f with ⟨e, refused⟩ | authority
  · rw [refused hp, refused hq]
    rfl
  · rw [authority hp, authority hq]
    exact readFromAuthority_password hp hq

/-- What is read with a password has the scheme and an authority. -/
lemma readAfterScheme_fill_ok {url : Url} (f : Frame (schemeKind scheme))
    (hp : (schemeKind scheme).IsPassword p) (h : readAfterScheme scheme (f.fill p) = .ok url) :
    url.scheme = scheme ∧ ∃ a, url.authority = some a := by
  rcases readAfterScheme_fill f with ⟨e, refused⟩ | authority
  · rw [refused hp] at h
    cases h
  · rw [authority hp] at h
    obtain ⟨a, rest, -, same, read⟩ := readFromAuthority_ok h
    exact ⟨same, a, read⟩

/-- The text of a URL around its password. -/
lemma exists_text_withPassword {url : Url} {a : Authority} (h : url.authority = some a) :
    ∃ user rest, ∀ password, (url.withPassword password).text =
      url.scheme ++ ':' :: '/' :: '/' :: (user ++ ':' :: (password ++ '@' :: rest)) := by
  refine ⟨a.username, a.host ++ (a.port.elim [] fun port => ':' :: decimal port) ++
    url.path.text ++ markedText '?' url.query ++ markedText '#' url.fragment, ?_⟩
  intro password
  cases hport : a.port <;>
    simp [text, authorityText, withPassword, h, Authority.withPassword, Authority.text,
      Authority.credentials, hport]

/-! ### Where passwords are read -/

variable {a : Authority}

lemma exists_password_of_readUserinfo {cs : List Char} (h : (readUserinfo cs).2.isSome = true) :
    ∃ user p, cs = user ++ ':' :: p ∧ ':' ∉ user ∧ p ≠ [] := by
  rw [readUserinfo] at h
  cases hs : splitFirst? ':' cs with
  | none =>
    rw [hs] at h
    cases h
  | some parts =>
    obtain ⟨user, p⟩ := parts
    rw [hs] at h
    obtain ⟨whole, colon⟩ := eq_append_of_splitFirst? hs
    refine ⟨user, p, whole, colon, ?_⟩
    rintro rfl
    cases h

/-- The password of an authority is the one in front of its last `@`. -/
lemma password_of_readAuthority {cs rest : List Char} (h : readAuthority k cs = .ok (a, rest)) :
    a.password = (readUserinfo ((splitUserinfo? k cs).getD ([], cs)).1).2 := by
  simp only [readAuthority] at h
  split_ifs at h
  obtain ⟨⟨host, port, behind⟩, -, read⟩ := bind_eq_ok_iff.1 h
  split_ifs at read
  cases read
  rfl

/-- A password is only read behind a colon and in front of an `@`. -/
lemma exists_frame_of_readAuthority {cs rest slashes : List Char}
    (h : readAuthority k cs = .ok (a, rest)) (hp : a.password.isSome = true)
    (opens : k.Opens slashes) :
    ∃ (f : Frame k) (p : List Char), k.IsPassword p ∧ slashes ++ cs = f.fill p := by
  rw [password_of_readAuthority h] at hp
  cases hs : splitUserinfo? k cs with
  | none =>
    rw [hs] at hp
    cases hp
  | some parts =>
    obtain ⟨userinfo, host⟩ := parts
    rw [hs] at hp
    obtain ⟨rfl, inside, last⟩ := splitUserinfo?_eq_some_iff.1 hs
    obtain ⟨user, p, rfl, colon, nonempty⟩ := exists_password_of_readUserinfo hp
    obtain ⟨user_inside, p_inside⟩ := List.forall_mem_append.1 inside
    exact ⟨⟨slashes, user, host, opens, colon, user_inside, last⟩, p,
      ⟨nonempty, (List.forall_mem_cons.1 p_inside).2⟩, rfl⟩

/-- A file has a host at most. Its segments are read behind that, or behind the slashes. -/
lemma readFile_ok {cs : List Char} {path : Path} (h : readFile cs = .ok (a, path)) :
    ∃ host segments, a = ⟨[], none, host, none⟩ ∧ path = filePath segments ∧
      (host = [] ∨ ∃ hostText, domainHost hostText = .ok host) ∧
      ∃ rest, segments = readSegments .file rest ∨
        segments = segmentsAfterAuthority .file rest := by
  rcases cs with _ | ⟨c, _ | ⟨d, rest⟩⟩
  · cases h
    exact ⟨[], _, rfl, rfl, Or.inl rfl, _, Or.inr rfl⟩
  · cases h
    exact ⟨[], _, rfl, rfl, Or.inl rfl, _, Or.inr rfl⟩
  · rw [readFile] at h
    dsimp only at h
    by_cases slashes : (SchemeKind.file.isSlash c && SchemeKind.file.isSlash d) = true
    · rw [if_pos slashes] at h
      -- a drive letter is no host, and belongs to the path
      by_cases drive : isDriveLetter (rest.takeWhile fun c => !SchemeKind.file.isSlash c) = true
      · rw [if_pos drive] at h
        cases h
        exact ⟨[], _, rfl, rfl, Or.inl rfl, rest, Or.inl rfl⟩
      · rw [if_neg drive] at h
        split_ifs at h
        · obtain ⟨host, read, named⟩ := bind_eq_ok_iff.1 h
          cases read
          cases named
          exact ⟨[], _, by split_ifs <;> rfl, rfl, Or.inl rfl, _, Or.inr rfl⟩
        · obtain ⟨host, read, named⟩ := bind_eq_ok_iff.1 h
          cases named
          split_ifs
          · exact ⟨[], _, rfl, rfl, Or.inl rfl, _, Or.inr rfl⟩
          · exact ⟨host, _, rfl, rfl, Or.inr ⟨_, read⟩, _, Or.inr rfl⟩
    · rw [if_neg slashes] at h
      cases h
      exact ⟨[], _, rfl, rfl, Or.inl rfl, _, Or.inr rfl⟩

/-- A file has no password. -/
lemma password_of_readFile {cs : List Char} {path : Path} (h : readFile cs = .ok (a, path)) :
    a.password = none := by
  obtain ⟨host, segments, rfl, -⟩ := readFile_ok h
  rfl

/-- What is read with a password is written around it. -/
lemma exists_frame_of_readAfterScheme {cs : List Char} {url : Url}
    (h : readAfterScheme scheme cs = .ok url) (ha : url.authority = some a)
    (hp : a.password.isSome = true) :
    ∃ (f : Frame (schemeKind scheme)) (p : List Char),
      (schemeKind scheme).IsPassword p ∧ cs = f.fill p := by
  have within (slashes : List Char) {rest : List Char} (opens : (schemeKind scheme).Opens slashes)
      (hr : readFromAuthority scheme rest = .ok url) :
      ∃ (f : Frame (schemeKind scheme)) (p : List Char),
        (schemeKind scheme).IsPassword p ∧ slashes ++ rest = f.fill p := by
    obtain ⟨b, behind, read, -, hb⟩ := readFromAuthority_ok hr
    rw [ha] at hb
    cases hb
    exact exists_frame_of_readAuthority read hp opens
  obtain ⟨k, hk⟩ : ∃ k, schemeKind scheme = k := ⟨_, rfl⟩
  cases k with
  | file =>
    simp only [readAfterScheme, hk] at h
    obtain ⟨⟨b, path⟩, read, assembled⟩ := bind_eq_ok_iff.1 h
    cases assembled
    cases ha
    rw [password_of_readFile read] at hp
    cases hp
  | special port =>
    rw [readAfterScheme_special hk] at h
    obtain ⟨f, p, password, whole⟩ := within (cs.takeWhile (schemeKind scheme).isSlash)
      (by rw [hk]; exact List.all_eq_true.1 List.all_takeWhile) h
    rw [List.takeWhile_append_dropWhile] at whole
    exact ⟨f, p, password, whole⟩
  | plain =>
    simp only [readAfterScheme, hk] at h
    split at h
    · exact within ['/', '/'] (by rw [hk]; rfl) h
    · cases h
      cases ha

end NestedTx.Url
