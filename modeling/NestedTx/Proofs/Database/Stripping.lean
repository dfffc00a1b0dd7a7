import NestedTx.Proofs.Database.Password
import NestedTx.Proofs.Text.Trimming
import NestedTx.Proofs.Url.Marks

/-!
# Options of a pool in a URL

The options of a pool are taken out of the query of a URL and nothing else is: a driver that reads
the connection string finds all other parameters as they were, in their order.
-/

namespace NestedTx

open Text

/-! ### Blanks at the end of a path -/

namespace Url

/-- What is trimmed at the end of a text is copies of the word. -/
lemma exists_trimEnd_replicate (c : Char) (cs : List Char) :
    ∃ k, cs = trimEnd [c] cs ++ List.replicate k c := by
  obtain ⟨⟨k, whole⟩, -⟩ := (trimEnd_eq_iff (List.cons_ne_nil c [])).1 (rfl : trimEnd [c] cs = _)
  exact ⟨k, by rwa [copies_singleton] at whole⟩

/-- The paths are the same but for blanks at the end of a path without structure. -/
def Path.SameUpToBlanks (p q : Path) : Prop :=
  p = q ∨ ∃ text k, p = .rootless (text ++ List.replicate k ' ') ∧ q = .rootless text

variable {url other : Url} {query : Option (List Char)}

lemma withQuery_query : (url.withQuery query).query = query := by
  obtain ⟨scheme, authority, path, old, fragment⟩ := url
  cases query <;> cases fragment <;> cases path <;> rfl

lemma withQuery_fragment : (url.withQuery query).fragment = url.fragment := by
  obtain ⟨scheme, authority, path, old, fragment⟩ := url
  cases query <;> cases fragment <;> cases path <;> rfl

lemma withQuery_path : url.path.SameUpToBlanks (url.withQuery query).path := by
  obtain ⟨scheme, authority, path, old, fragment⟩ := url
  cases query with
  | some q => exact Or.inl rfl
  | none =>
    cases fragment with
    | some f => exact Or.inl rfl
    | none =>
      cases path with
      | rooted segments => exact Or.inl rfl
      | rootless text =>
        obtain ⟨k, whole⟩ := exists_trimEnd_replicate ' ' text
        exact Or.inr ⟨_, k, congrArg Path.rootless whole, rfl⟩

/-- Without blanks at the end of its path, a URL has no other characters in front of its marks. -/
lemma front_subset (scheme : other.scheme = url.scheme)
    (authority : other.authority = url.authority)
    (path : url.path.SameUpToBlanks other.path) : other.front ⊆ url.front := by
  rcases path with same | ⟨text, k, long, short⟩
  · rw [front, front, authorityText, authorityText, scheme, authority, same]
    exact List.Subset.refl _
  · rw [front, front, authorityText, authorityText, scheme, authority, long, short, Path.text,
      Path.text, ← List.append_assoc]
    exact List.subset_append_left _ _

lemma Delimited.withQuery (h : url.Delimited)
    (hq : ∀ q ∈ query, ∀ c ∈ q, inQuerySet c = false) : (url.withQuery query).Delimited := by
  obtain ⟨authority, scheme⟩ := @Target.withQuery_authority url query
  refine ⟨h.front.subset (front_subset scheme authority withQuery_path), ?_, ?_⟩
  · rw [withQuery_query]
    exact hq
  · rw [withQuery_fragment]
    exact h.fragment

end Url

namespace Target

/-! ### Parameters -/

/-- Is the parameter named like an option of the pool, in any case? -/
def namesOption (p : Url.Pair) : Bool :=
  ["max_connections", "min_connections", "idle_timeout", "acquire_timeout",
    "test_before_acquire"].any fun name => eqIgnoringCase p.1 name.toList

/-- The parameters of a URL that are not for the pool. -/
def driverPairs (url : Url) : List Url.Pair :=
  (queryPairs url).filter fun p => !namesOption p

lemma lowercase_name (k : PoolOptions.Key) : lowercase k.name.toList = k.name.toList := by
  cases k <;> rfl

lemma isPoolOption_eq_namesOption (p : Url.Pair) : isPoolOption p = namesOption p := by
  have same : ∀ k : PoolOptions.Key,
      (k.name.toList == lowercase p.1) = eqIgnoringCase p.1 k.name.toList := by
    intro k
    rw [eqIgnoringCase, lowercase_name, BEq.comm]
  have names : namesOption p =
      PoolOptions.Key.all.any fun k => eqIgnoringCase p.1 k.name.toList := rfl
  rw [isPoolOption, PoolOptions.Key.ofName?, List.isSome_find?, names]
  simp only [same]

/-- The query that is left to the driver, if there is one. -/
def driverQuery? (url : Url) : Option (List Char) :=
  if driverPairs url = [] then none else some (Url.queryOfPairs (driverPairs url))

variable {url : Url}

lemma stripPoolOptions_eq : stripPoolOptions url = url.withQuery (driverQuery? url) := by
  have same : (queryPairs url).filter (fun p => !isPoolOption p) = driverPairs url := by
    simp only [isPoolOption_eq_namesOption, driverPairs]
  rw [stripPoolOptions, same, driverQuery?]
  cases driverPairs url <;> rfl

lemma driverQuery?_eq_none_iff : driverQuery? url = none ↔ driverPairs url = [] := by
  simp [driverQuery?]

/-- The parameters that are left are read out of the query that is left. -/
lemma queryPairs_driverQuery? : Url.queryPairs ((driverQuery? url).getD []) = driverPairs url := by
  rw [driverQuery?]
  split_ifs with none
  · rw [none]
    rfl
  · exact Url.queryPairs_queryOfPairs _

lemma driverQuery?_plain :
    ∀ q ∈ driverQuery? url, ∀ c ∈ q, Url.inSpecialQuerySet c = false := by
  rw [driverQuery?]
  split_ifs
  · exact nofun
  · rintro q hq
    cases hq
    exact Url.queryOfPairs_plain _

/-! ### Stripped URLs -/

/-- The second URL is the first one without the options of the pool. Whoever cuts its text at the
marks, or reads it as a URL, finds the parameters that are left and no others. -/
structure Stripped (url stripped : Url) : Prop where
  scheme : stripped.scheme = url.scheme
  authority : stripped.authority = url.authority
  path : url.path.SameUpToBlanks stripped.path
  fragment : stripped.fragment = url.fragment
  pairs : queryPairs stripped = driverPairs url
  query : stripped.query = none ↔ driverPairs url = []
  marks : Url.splitMarks stripped.text = ⟨stripped.front, stripped.query, stripped.fragment⟩
  reread : ∀ again, Url.parse stripped.text = .ok again →
    queryPairs again = driverPairs url ∧ again.query = stripped.query ∧
      again.fragment = url.fragment

lemma stripped_stripPoolOptions (h : url.Delimited) : Stripped url (stripPoolOptions url) := by
  -- the pairs are encoded as they are written back, so no mark ends the query early
  have plain : ∀ q ∈ driverQuery? url, ∀ c ∈ q, Url.inQuerySet c = false := by
    intro q hq c hc
    exact Url.inQuerySet_of_inSpecialQuerySet (driverQuery?_plain q hq c hc)
  have delimited : (stripPoolOptions url).Delimited := by
    rw [stripPoolOptions_eq]
    exact h.withQuery plain
  have query : (stripPoolOptions url).query = driverQuery? url := by
    rw [stripPoolOptions_eq, Url.withQuery_query]
  have fragment : (stripPoolOptions url).fragment = url.fragment := by
    rw [stripPoolOptions_eq, Url.withQuery_fragment]
  have path : url.path.SameUpToBlanks (stripPoolOptions url).path := by
    rw [stripPoolOptions_eq]
    exact Url.withQuery_path
  obtain ⟨authority, scheme⟩ := @stripPoolOptions_authority url
  refine ⟨scheme, authority, path, fragment, ?_, ?_, delimited.splitMarks_text, ?_⟩
  · rw [queryPairs, query]
    exact queryPairs_driverQuery?
  · rw [query]
    exact driverQuery?_eq_none_iff
  · intro again read
    obtain ⟨found, behind⟩ := delimited.parse_text read
    rw [query, Url.map_percentEncode_query driverQuery?_plain] at found
    rw [queryPairs, found, query, behind, fragment]
    exact ⟨queryPairs_driverQuery?, rfl, rfl⟩

lemma exists_parts_of_ofUrl {name : Option (List Char)} {cs : List Char} {t : Target}
    (h : ofUrl name cs = .ok t) :
    ∃ url pool, Url.parse cs = .ok url ∧ t = ofParts name url pool := by
  cases read : Url.parse cs with
  | error e =>
    rw [ofUrl, read] at h
    cases h
  | ok url =>
    rw [ofUrl_of_parse read] at h
    split at h
    · cases h
    · rename_i pool _
      split at h
      · cases h
      · cases h
        exact ⟨url, pool, rfl, rfl⟩

/-- An argument that is read gives the connection string of its own URL without the options of the
pool. -/
theorem strips_pool_options {s : String} {t : Target} (h : parse s = .ok t) :
    ∃ url stripped, Url.parse (splitName s.toList).2 = .ok url ∧ Stripped url stripped ∧
      t.connectionString = String.ofList stripped.text := by
  have named : ∃ name, ofUrl name (splitName s.toList).2 = .ok t := by
    rw [parse] at h
    split at h
    · cases h
    · rename_i name cs _ cut
      exact ⟨name, by rw [cut]; exact h⟩
  obtain ⟨name, whole⟩ := named
  obtain ⟨url, pool, read, rfl⟩ := exists_parts_of_ofUrl whole
  have stripped := stripped_stripPoolOptions (Url.delimited_of_parse read)
  exact ⟨url, stripPoolOptions url, read, stripped, rfl⟩

/-- Names in any case, given twice, bytes that are no text, marks in names and values, empty pieces
and an encoded blank. -/
def crowdedArgument : String :=
  "app=postgres://clerk@db.example/orders?Max_Connections=4&a=%ff&b=1+2&&a=%26%3D%23" ++
    "&max_connections=7&MIN%5Fconnections=1&=c#top"

/-- The target for that argument. -/
def crowdedTarget : Target :=
  { name := "app"
    connectionString :=
      "postgres://clerk@db.example/orders?a=%EF%BF%BD&b=1+2&a=%26%3D%23&=c#top"
    database := some "orders"
    pool := { PoolOptions.unset with maxConnections := some 7, minConnections := some 1 } }

theorem strips_pool_options_crowded :
    parse crowdedArgument = .ok crowdedTarget ∧
      ∃ url stripped, Url.parse (splitName crowdedArgument.toList).2 = .ok url ∧
        Stripped url stripped ∧ crowdedTarget.connectionString = String.ofList stripped.text := by
  have read : parse crowdedArgument = .ok crowdedTarget := by decide +kernel
  exact ⟨read, strips_pool_options read⟩

end Target

end NestedTx
