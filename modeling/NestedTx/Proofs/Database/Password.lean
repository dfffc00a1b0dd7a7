import NestedTx.Database.Target
import NestedTx.Proofs.Url.Surroundings

/-!
# Arguments with a password

Two arguments that differ only in the password of their URL are refused alike, or name the same
database with connection strings that differ only in that password. An argument around a password
is a `Place`, and there is one for every argument whose URL has a password.
-/

namespace NestedTx

open Text

/-! ### Kinds of databases -/

namespace DatabaseKind

/-- A start is compared up to a mark and then behind it. -/
lemma prefix_mark_iff {c : Char} {word other m rest : List Char} (hw : c ∉ word)
    (ho : c ∉ other) :
    word ++ c :: m <+: other ++ c :: rest ↔ word = other ∧ m <+: rest := by
  constructor
  · rintro ⟨behind, whole⟩
    have split := congrArg (splitFirst? c) whole
    rw [List.append_assoc, List.cons_append, Url.splitFirst?_append hw, Url.splitFirst?_append ho,
      Url.splitFirst?_cons_self, Url.splitFirst?_cons_self] at split
    have both : word = other ∧ m ++ behind = rest := by simpa using split
    exact ⟨both.1, behind, both.2⟩
  · rintro ⟨rfl, behind, rfl⟩
    exact ⟨behind, by simp⟩

/-- The starts that databases are known by are schemes, with slashes behind them or not. -/
lemma exists_word_of_mem_schemes {k : String × DatabaseKind} (h : k ∈ schemes) :
    ∃ word m, k.1.toList = word ++ ':' :: m ∧ ':' ∉ word ∧ m <+: ['/', '/'] := by
  simp only [schemes, List.mem_cons, List.not_mem_nil, or_false] at h
  rcases h with rfl | rfl | rfl | rfl | rfl
  · exact ⟨"postgres".toList, ['/', '/'], rfl, by decide, by decide⟩
  · exact ⟨"postgresql".toList, ['/', '/'], rfl, by decide, by decide⟩
  · exact ⟨"mysql".toList, ['/', '/'], rfl, by decide, by decide⟩
  · exact ⟨"mariadb".toList, ['/', '/'], rfl, by decide, by decide⟩
  · exact ⟨"sqlite".toList, [], rfl, by decide, by decide⟩

/-- The kind of a database depends on nothing behind the slashes of its URL. -/
lemma ofConnectionString?_congr {scheme : List Char} (hs : ':' ∉ scheme) (cs ds : List Char) :
    ofConnectionString? (String.ofList (scheme ++ ':' :: '/' :: '/' :: cs)) =
      ofConnectionString? (String.ofList (scheme ++ ':' :: '/' :: '/' :: ds)) := by
  have same : ∀ k ∈ schemes,
      k.1.toList.isPrefixOf (lowercase (scheme ++ ':' :: '/' :: '/' :: cs)) =
        k.1.toList.isPrefixOf (lowercase (scheme ++ ':' :: '/' :: '/' :: ds)) := by
    intro k hk
    obtain ⟨word, m, start, plain, slashes⟩ := exists_word_of_mem_schemes hk
    have known : ∀ behind : List Char,
        k.1.toList <+: lowercase (scheme ++ ':' :: '/' :: '/' :: behind) ↔
          word = lowercase scheme := by
      intro behind
      have lower : lowercase (scheme ++ ':' :: '/' :: '/' :: behind) =
          lowercase scheme ++ ':' :: ('/' :: '/' :: lowercase behind) := by
        simp [lowercase]
      rw [lower, start, prefix_mark_iff plain (Url.colon_not_mem_lowercase hs)]
      exact and_iff_left (slashes.trans ⟨lowercase behind, rfl⟩)
    rw [Bool.eq_iff_iff, List.isPrefixOf_iff_prefix, List.isPrefixOf_iff_prefix, known, known]
  rw [ofConnectionString?, ofConnectionString?, ← List.head?_filter, ← List.head?_filter,
    String.toList_ofList, String.toList_ofList, List.filter_congr same]

end DatabaseKind

/-! ### What does not depend on the password -/

namespace Target

variable {url : Url} {password p q : List Char}

lemma withQuery_withPassword (query : Option (List Char)) :
    (url.withPassword password).withQuery query = (url.withQuery query).withPassword password := by
  obtain ⟨scheme, authority, path, old, fragment⟩ := url
  cases query <;> cases fragment <;> cases path <;> rfl

/-- The options of the pool are taken out whatever the password is. -/
lemma stripPoolOptions_withPassword :
    stripPoolOptions (url.withPassword password) =
      (stripPoolOptions url).withPassword password := by
  have pairs : queryPairs (url.withPassword password) = queryPairs url := rfl
  rw [stripPoolOptions, stripPoolOptions, pairs]
  generalize (queryPairs url).filter (fun p => !isPoolOption p) = rest
  cases rest <;> exact withQuery_withPassword _

lemma withQuery_authority (query : Option (List Char)) :
    (url.withQuery query).authority = url.authority ∧
      (url.withQuery query).scheme = url.scheme := by
  obtain ⟨scheme, authority, path, old, fragment⟩ := url
  cases query <;> cases fragment <;> cases path <;> exact ⟨rfl, rfl⟩

lemma stripPoolOptions_authority :
    (stripPoolOptions url).authority = url.authority ∧
      (stripPoolOptions url).scheme = url.scheme := by
  rw [stripPoolOptions]
  generalize (queryPairs url).filter (fun p => !isPoolOption p) = rest
  cases rest <;> exact withQuery_authority _

/-- The targets are the same but for the password in their connection strings. -/
structure Alike (p q : List Char) (t u : Target) : Prop where
  name : t.name = u.name
  database : t.database = u.database
  pool : t.pool = u.pool
  connectionString : ∃ scheme user rest, ':' ∉ scheme ∧
    t.connectionString =
      String.ofList (scheme ++ ':' :: '/' :: '/' :: (user ++ ':' :: (p ++ '@' :: rest))) ∧
    u.connectionString =
      String.ofList (scheme ++ ':' :: '/' :: '/' :: (user ++ ':' :: (q ++ '@' :: rest)))

/-- The target for a URL and the options of its pool. -/
def ofParts (explicitName : Option (List Char)) (url : Url) (pool : PoolOptions) : Target :=
  let url := stripPoolOptions url
  let database := databaseName? url.path.text
  { name := String.ofList ((explicitName.or database).getD "default".toList)
    connectionString := String.ofList url.text
    database := database.map String.ofList
    pool := pool }

/-- What is made of a URL once it is read. -/
lemma ofUrl_of_parse {name : Option (List Char)} {cs : List Char} (h : Url.parse cs = .ok url) :
    ofUrl name cs = match PoolOptions.ofPairs (queryPairs url) with
      | .error b => .error (.badValue b)
      | .ok pool =>
        match pool.misfit? with
        | some m => .error (.misfit m)
        | none => .ok (ofParts name url pool) := by
  cases hp : PoolOptions.ofPairs (queryPairs url) with
  | error b => simp only [ofUrl, h, Except.mapError, bind, Except.bind, hp]
  | ok pool =>
    cases hm : pool.misfit? with
    | some m => simp only [ofUrl, h, Except.mapError, bind, Except.bind, hp, hm]
    | none =>
      simp only [ofUrl, h, Except.mapError, bind, Except.bind, hp, hm]
      rfl

/-- The targets for one URL with two passwords. -/
lemma ofParts_alike {a : Url.Authority} (ha : url.authority = some a) (hs : ':' ∉ url.scheme)
    (name : Option (List Char)) (pool : PoolOptions) :
    Alike p q (ofParts name (url.withPassword p) pool)
      (ofParts name (url.withPassword q) pool) := by
  have authority : (stripPoolOptions url).authority = some a := by
    rw [stripPoolOptions_authority.1, ha]
  have scheme : ':' ∉ (stripPoolOptions url).scheme := by
    rwa [stripPoolOptions_authority.2]
  obtain ⟨user, rest, text⟩ := Url.exists_text_withPassword authority
  rw [ofParts, ofParts, stripPoolOptions_withPassword, stripPoolOptions_withPassword]
  refine ⟨rfl, rfl, rfl, (stripPoolOptions url).scheme, user, rest, scheme, ?_, ?_⟩
  · rw [← text p]
  · rw [← text q]

/-- URLs with different passwords are refused alike, or lead to targets that are alike. -/
lemma ofUrl_alike (w : Url.Surroundings) (hp : w.Holds p) (hq : w.Holds q)
    (name : Option (List Char)) :
    (∃ e, ofUrl name (w.front ++ p ++ w.back) = .error e ∧
        ofUrl name (w.front ++ q ++ w.back) = .error e) ∨
      ∃ t u, ofUrl name (w.front ++ p ++ w.back) = .ok t ∧
        ofUrl name (w.front ++ q ++ w.back) = .ok u ∧
        Alike (Url.Surroundings.encoded p) (Url.Surroundings.encoded q) t u := by
  have same := w.parse_password hp hp
  have other := w.parse_password hp hq
  cases read : Url.parse (w.front ++ p ++ w.back) with
  | error e =>
    rw [read] at other
    refine Or.inl ⟨.invalidUrl e, ?_, ?_⟩
    · rw [ofUrl, read]
      rfl
    · rw [ofUrl, other]
      rfl
  | ok url =>
    rw [read] at same other
    have own : url = url.withPassword (Url.Surroundings.encoded p) := Except.ok.inj same
    obtain ⟨scheme, a, authority⟩ : url.scheme = w.scheme ∧ ∃ a, url.authority = some a := by
      rw [w.parse_eq] at read
      exact Url.readAfterScheme_fill_ok w.frame hp read
    have colon : ':' ∉ url.scheme := by
      rw [scheme]
      exact Url.colon_not_mem_of_readScheme? w.opened
    -- the options stand in the query, behind the password
    have pairs : queryPairs (url.withPassword (Url.Surroundings.encoded q)) = queryPairs url := rfl
    rw [ofUrl_of_parse read, ofUrl_of_parse other, pairs]
    cases PoolOptions.ofPairs (queryPairs url) with
    | error b => exact Or.inl ⟨.badValue b, rfl, rfl⟩
    | ok pool =>
      dsimp only
      cases pool.misfit? with
      | some m => exact Or.inl ⟨.misfit m, rfl, rfl⟩
      | none =>
        right
        have alike := @ofParts_alike url (Url.Surroundings.encoded p) (Url.Surroundings.encoded q)
          a authority colon name pool
        rw [← own] at alike
        exact ⟨_, _, rfl, rfl, alike⟩

/-! ### Names in front of URLs -/

lemma takeWhile_ne_append {c : Char} {front rest : List Char} (h : c ∉ front) :
    (front ++ rest).takeWhile (· != c) = front ++ rest.takeWhile (· != c) := by
  apply List.takeWhile_append_of_pos
  intro b hb
  rw [bne_iff_ne]
  rintro rfl
  exact h hb

/-- An argument around the password of its URL, perhaps with a name in front. -/
structure Place where
  name : Option (List Char)
  url : Url.Surroundings
  name_plain : ∀ n ∈ name, '=' ∉ n ∧ ':' ∉ n

namespace Place

variable (w : Place)

/-- The argument with a password in it. -/
def argument (password : List Char) : String :=
  String.ofList ((w.name.elim [] fun n => n ++ ['=']) ++ (w.url.front ++ password ++ w.url.back))

/-- The name and the URL of an argument are apart. -/
lemma splitName_argument (password : List Char) :
    splitName (w.argument password).toList =
      (w.name.map trimBlank, w.url.front ++ password ++ w.url.back) := by
  rw [argument, String.toList_ofList]
  generalize hu : w.url.front ++ password ++ w.url.back = url
  cases hn : w.name with
  | none =>
    obtain ⟨before, rest, front, colon, equals⟩ := w.url.exists_front
    -- what is before the first colon ends within the front, with or without a password
    have word : url.takeWhile (· != ':') = before := by
      rw [← hu, front, List.append_assoc, List.append_assoc, takeWhile_ne_append colon]
      simp
    have unnamed : splitFirst? '=' before = none := Url.splitFirst?_eq_none_iff.2 equals
    show splitName url = _
    rw [splitName, word, unnamed]
    rfl
  | some n =>
    obtain ⟨equals, colon⟩ := w.name_plain n hn
    have word : (n ++ ['='] ++ url).takeWhile (· != ':') =
        n ++ '=' :: url.takeWhile (· != ':') := by
      rw [List.append_assoc, takeWhile_ne_append colon]
      simp
    show splitName (n ++ ['='] ++ url) = _
    rw [splitName, word, Url.splitFirst?_append equals, Url.splitFirst?_cons_self]
    simp

/-- Arguments with different passwords are refused alike, or name targets that are alike. -/
lemma parse_alike (hp : w.url.Holds p) (hq : w.url.Holds q) :
    (∃ e, parse (w.argument p) = .error e ∧ parse (w.argument q) = .error e) ∨
      ∃ t u, parse (w.argument p) = .ok t ∧ parse (w.argument q) = .ok u ∧
        Alike (Url.Surroundings.encoded p) (Url.Surroundings.encoded q) t u := by
  rw [parse, parse, w.splitName_argument, w.splitName_argument]
  rcases w.name.map trimBlank with _ | ⟨_ | ⟨c, cs⟩⟩
  · exact ofUrl_alike w.url hp hq none
  · exact Or.inl ⟨.emptyName, rfl, rfl⟩
  · exact ofUrl_alike w.url hp hq (some (c :: cs))

end Place

/-- Every argument whose URL has a password is a text around that password. -/
theorem exists_place {s : String} {a : Url.Authority}
    (h : Url.parse (splitName s.toList).2 = .ok url) (ha : url.authority = some a)
    (hp : a.password.isSome = true) :
    ∃ (w : Place) (p : List Char), w.url.Holds p ∧ s = w.argument p := by
  obtain ⟨around, p, holds, whole⟩ := Url.exists_surroundings h ha hp
  rw [splitName] at whole
  cases hn : splitFirst? '=' (s.toList.takeWhile (· != ':')) with
  | none =>
    rw [hn] at whole
    refine ⟨⟨none, around, by simp⟩, p, holds, ?_⟩
    rw [Place.argument, ← whole]
    simp
  | some parts =>
    obtain ⟨name, rest⟩ := parts
    rw [hn] at whole
    obtain ⟨front, equals⟩ := Url.eq_append_of_splitFirst? hn
    have colon : ':' ∉ name := by
      intro hc
      have passed := List.all_eq_true.1 (List.all_takeWhile (p := (· != ':')) (l := s.toList))
      rw [front] at passed
      exact absurd (passed ':' (List.mem_append_left _ hc)) (by decide)
    have split : s.toList = name ++ '=' :: s.toList.drop (name.length + 1) := by
      have cut := List.takeWhile_append_dropWhile (p := (· != ':')) (l := s.toList)
      rw [front] at cut
      rw [← cut]
      simp
    refine ⟨⟨some name, around, by simp [equals, colon]⟩, p, holds, ?_⟩
    rw [Place.argument, ← whole, ← String.toList_inj, split]
    simp

end Target

end NestedTx
