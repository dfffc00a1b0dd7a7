import NestedTx.Proofs.Database.PoolOptions
import NestedTx.Proofs.Url.Roundtrip

/-!
# Reading a connection string again

The connection string of a target is an argument as well. It has no name in front and no options of
the pool in its query, and nothing else in it changes when it is read.
-/

namespace NestedTx

open Text

namespace Url

variable {url : Url} {query : Option (List Char)} {cs : List Char}

/-! ### URLs with another query -/

lemma FrontEncoded.withQuery (h : url.FrontEncoded) : (url.withQuery query).FrontEncoded := by
  obtain ⟨authority, scheme⟩ := @Target.withQuery_authority url query
  refine ⟨by rw [scheme]; exact h.scheme, by rw [scheme, authority]; exact h.authority, ?_⟩
  have path := h.path
  rcases @withQuery_path url query with same | ⟨text, k, long, short⟩
  · rwa [← same]
  · rw [long] at path
    rw [short]
    exact ⟨(unmarked_append.1 path.1).1, fun c hc => path.2 c (List.mem_append_left _ hc)⟩

lemma endsVisibly_withQuery : (url.withQuery query).EndsVisibly := by
  intro text path markless bare
  rw [withQuery_query] at markless
  rw [withQuery_fragment] at bare
  obtain ⟨scheme, authority, old, oldQuery, fragment⟩ := url
  dsimp only at bare
  subst bare markless
  cases old with
  | rooted segments => cases path
  | rootless old =>
    cases path
    obtain ⟨-, last⟩ := (trimEnd_eq_iff (List.cons_ne_nil ' ' [])).1
      (rfl : trimEnd [' '] old = _)
    rintro c hc rfl
    obtain ⟨front, whole⟩ := List.getLast?_eq_some_iff.1 hc
    exact last ⟨front, whole.symm⟩

/-- Replacing a query twice is the same as once. -/
lemma withQuery_withQuery : (url.withQuery query).withQuery query = url.withQuery query := by
  obtain ⟨scheme, authority, path, old, fragment⟩ := url
  cases query with
  | some q => rfl
  | none =>
    cases fragment with
    | some f => rfl
    | none =>
      cases path with
      | rooted segments => rfl
      | rootless text =>
        show Url.mk _ _ (.rootless (trimEnd [' '] (trimEnd [' '] text))) _ _ = _
        rw [trimEnd_trimEnd (List.cons_ne_nil _ _)]
        rfl

lemma withQuery_of_rooted {segments : List (List Char)} (path : url.path = .rooted segments) :
    url.withQuery query = { url with query := query } := by
  obtain ⟨scheme, authority, _, old, fragment⟩ := url
  cases path
  cases query <;> cases fragment <;> rfl

variable (plain : ∀ q ∈ query, ∀ c ∈ q, inSpecialQuerySet c = false)

include plain

lemma number_not_mem : ∀ q ∈ query, '#' ∉ q := by
  intro q hq number
  exact absurd (plain q hq '#' number) (by decide)

lemma parse_withQuery (read : parse cs = .ok url) :
    parse (url.withQuery query).text = readAfterScheme url.scheme
      ((url.withQuery query).authorityText ++ (url.withQuery query).path.text ++
        marksText query url.fragment) := by
  have delimited : (url.withQuery query).Delimited :=
    (delimited_of_parse read).withQuery fun q hq c hc =>
      inQuerySet_of_inSpecialQuerySet (plain q hq c hc)
  have scheme := (@Target.withQuery_authority url query).2
  rw [parse_text read scheme (frontEncoded_of_parse read).withQuery delimited endsVisibly_withQuery,
    withQuery_query, withQuery_fragment]

/-- A path without structure is read again with any query. -/
lemma parse_withQuery_rootless {text : List Char} (read : parse cs = .ok url)
    (path : url.path = .rootless text) :
    parse (url.withQuery query).text = .ok (url.withQuery query) := by
  obtain ⟨hk, lone, slash⟩ := rootless_of_parse read path
  obtain ⟨authority, scheme⟩ := @Target.withQuery_authority url query
  have encoded : (url.withQuery query).path.Encoded := (frontEncoded_of_parse read).withQuery.path
  rw [parse_withQuery plain read]
  -- trimming may shorten such a path, but never to one that begins with a slash
  have kept : ∃ short, (url.withQuery query).path = .rootless short ∧ short.head? ≠ some '/' := by
    rcases @withQuery_path url query with same | ⟨short, k, long, cut⟩
    · exact ⟨text, by rw [← same, path], slash⟩
    · refine ⟨short, cut, ?_⟩
      rw [path] at long
      cases long
      intro first
      rw [List.head?_append, first] at slash
      exact slash rfl
  obtain ⟨short, path', slash'⟩ := kept
  rw [path'] at encoded
  have bare : (url.withQuery query).authorityText = [] := by
    rw [authorityText, authority, lone, path']
  rw [bare, path', List.nil_append, Path.text, readAfterScheme_rootless hk slash' encoded
    (fun q hq c hc => querySet_of_inSpecialQuerySet (plain q hq c hc))
    (delimited_of_parse read).fragment]
  have query' := @withQuery_query url query
  have fragment' := @withQuery_fragment url query
  generalize url.withQuery query = other at *
  obtain ⟨s, a, p, q, f⟩ := other
  dsimp only at *
  subst scheme authority path' query' fragment'
  rw [lone]

/-- A path with structure is read again with another query if it is read again at all. -/
lemma parse_withQuery_rooted {segments : List (List Char)} (read : parse cs = .ok url)
    (path : url.path = .rooted segments) (again : parse url.text = .ok url)
    (fewer : url.query = none → query = none) :
    parse (url.withQuery query).text = .ok (url.withQuery query) := by
  have delimited := delimited_of_parse read
  have ends : url.EndsVisibly := by
    intro text rootless
    rw [path] at rootless
    cases rootless
  rw [parse_text read rfl (frontEncoded_of_parse read) delimited ends] at again
  have clear : Unmarked (url.authorityText ++ url.path.text) :=
    delimited.front.subset (by simp [Url.front])
  have other := readAfterScheme_other clear delimited.number_not_mem (number_not_mem plain) fewer
    again
  rw [parse_withQuery plain read, withQuery_of_rooted path]
  refine Eq.trans ?_ (other.trans ?_)
  · rfl
  · rw [map_percentEncode_query plain]

end Url

namespace Target

/-! ### Targets -/

variable {url : Url} {cs : List Char} {s : String} {t : Target}

lemma queryPairs_stripPoolOptions : queryPairs (stripPoolOptions url) = driverPairs url := by
  rw [queryPairs, stripPoolOptions_eq, Url.withQuery_query, queryPairs_driverQuery?]

/-- There is nothing to strip from a stripped URL. -/
lemma driverPairs_stripPoolOptions : driverPairs (stripPoolOptions url) = driverPairs url := by
  rw [driverPairs, queryPairs_stripPoolOptions, driverPairs, List.filter_filter]
  simp only [Bool.and_self]

lemma stripPoolOptions_stripPoolOptions :
    stripPoolOptions (stripPoolOptions url) = stripPoolOptions url := by
  have query : driverQuery? (stripPoolOptions url) = driverQuery? url := by
    rw [driverQuery?, driverPairs_stripPoolOptions, driverQuery?]
  rw [stripPoolOptions_eq, query, stripPoolOptions_eq, Url.withQuery_withQuery]

/-- No option is set by what is left to the driver. -/
lemma ofPairs_driverPairs : PoolOptions.ofPairs (driverPairs url) = .ok PoolOptions.unset := by
  have none : PoolOptions.ofPairs [] = .ok PoolOptions.unset := rfl
  rw [← none]
  apply PoolOptions.ofPairs_congr
  intro k
  have unset : (driverPairs url).filter k.sets = [] := by
    rw [List.filter_eq_nil_iff]
    intro p hp sets
    have other : namesOption p = false := by simpa using (List.mem_filter.1 hp).2
    have own : namesOption p = PoolOptions.Key.all.any fun k => k.sets p := rfl
    rw [own, List.any_eq_false] at other
    exact other k (by cases k <;> decide) sets
  rw [PoolOptions.Key.texts, unset]
  rfl

/-- A stripped URL is read again, with a special scheme if the URL is read again. -/
lemma parse_stripPoolOptions (read : Url.parse cs = .ok url)
    (again : (Url.schemeKind url.scheme).isSpecial = true → Url.parse url.text = .ok url) :
    Url.parse (stripPoolOptions url).text = .ok (stripPoolOptions url) := by
  rw [stripPoolOptions_eq]
  cases path : url.path with
  | rootless text => exact Url.parse_withQuery_rootless driverQuery?_plain read path
  | rooted segments =>
    have reread : Url.parse url.text = .ok url := by
      cases hk : Url.schemeKind url.scheme with
      | plain => exact Url.parse_text_of_plain read hk path
      | special port => exact again (by rw [hk]; rfl)
      | file => exact again (by rw [hk]; rfl)
    refine Url.parse_withQuery_rooted driverQuery?_plain read path reread fun none => ?_
    rw [driverQuery?_eq_none_iff, driverPairs, queryPairs, none]
    rfl

lemma splitName_text (front : url.FrontEncoded) : splitName url.text = (none, url.text) := by
  have passed := front.scheme
  have colon : ':' ∉ url.scheme := fun h => absurd (passed ':' h) (by decide)
  have plain : '=' ∉ url.text.takeWhile (· != ':') := by
    rw [Url.text, List.append_assoc, List.append_assoc, List.append_assoc,
      takeWhile_ne_append colon]
    simpa using fun h => absurd (passed '=' h) (by decide)
  rw [splitName, Url.splitFirst?_eq_none_iff.2 plain]

lemma exists_parts_of_parse (h : parse s = .ok t) :
    ∃ name url pool, Url.parse (splitName s.toList).2 = .ok url ∧ t = ofParts name url pool := by
  rw [parse] at h
  split at h
  · cases h
  · rename_i name cs _ cut
    obtain ⟨url, pool, read, whole⟩ := exists_parts_of_ofUrl h
    exact ⟨name, url, pool, by rwa [cut], whole⟩

/-- The connection string of a target is an argument for the same database, with no name of its own
and no options of the pool. For the special schemes of the web, which no database has, the URL of
the argument must be read again from its own text. -/
theorem parse_connectionString (h : parse s = .ok t)
    (again : ∀ url, Url.parse (splitName s.toList).2 = .ok url →
      (Url.schemeKind url.scheme).isSpecial = true → Url.parse url.text = .ok url) :
    parse t.connectionString =
      .ok ⟨t.database.getD "default", t.connectionString, t.database, PoolOptions.unset⟩ := by
  obtain ⟨name, url, pool, read, rfl⟩ := exists_parts_of_parse h
  have reread := parse_stripPoolOptions read (again url read)
  have front : (stripPoolOptions url).FrontEncoded := by
    rw [stripPoolOptions_eq]
    exact (Url.frontEncoded_of_parse read).withQuery
  have pairs : PoolOptions.ofPairs (queryPairs (stripPoolOptions url)) = .ok PoolOptions.unset := by
    rw [queryPairs_stripPoolOptions, ofPairs_driverPairs]
  have written : (ofParts name url pool).connectionString.toList = (stripPoolOptions url).text :=
    String.toList_ofList
  have unnamed := splitName_text front
  rw [← written] at unnamed reread
  rw [parse_of_named (by simp [unnamed]), unnamed, ofUrl_of_parse reread, pairs]
  show Except.ok (ofParts none (stripPoolOptions url) PoolOptions.unset) = _
  simp only [ofParts, stripPoolOptions_stripPoolOptions, Option.none_or]
  cases databaseName? (stripPoolOptions url).path.text <;> rfl

/-- A URL of the web with a name in front, a usual port, dots in its path and options of a pool. -/
def webArgument : String :=
  "app=http://clerk@DB.example:80/old/../orders.db?Max_Connections=4&a=%26%3D&b#top"

/-- The target for that argument. -/
def webTarget : Target :=
  { name := "app"
    connectionString := "http://clerk@db.example/orders.db?a=%26%3D&b=#top"
    database := some "orders"
    pool := { PoolOptions.unset with maxConnections := some 4 } }

/-- The URL of that argument. -/
def webUrl : Url where
  scheme := "http".toList
  authority := some ⟨"clerk".toList, none, "db.example".toList, none⟩
  path := .rooted ["orders.db".toList]
  query := some "Max_Connections=4&a=%26%3D&b".toList
  fragment := some "top".toList

/-- The name and the options of the pool are gone. -/
theorem parse_connectionString_web :
    parse webArgument = .ok webTarget ∧ Url.parse webUrl.text = .ok webUrl ∧
    parse webTarget.connectionString =
      .ok ⟨"orders", webTarget.connectionString, some "orders", PoolOptions.unset⟩ := by
  have read : parse webArgument = .ok webTarget := by decide +kernel
  have again : Url.parse webUrl.text = .ok webUrl := by decide +kernel
  have own : Url.parse (splitName webArgument.toList).2 = .ok webUrl := by decide +kernel
  refine ⟨read, again, parse_connectionString read fun url found _ => ?_⟩
  rw [own] at found
  cases found
  exact again

end Target

end NestedTx
