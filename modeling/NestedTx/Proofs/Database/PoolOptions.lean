import NestedTx.Proofs.Database.Stripping
import NestedTx.Proofs.Text.Decimal

/-!
# Sound pool options

The options of a pool are read from the parameters of a query. Of the parameters that set an
option the last one counts, its text must be a literal of the kind of the option, and what is read
must fit together. An argument is accepted if and only if this is so.
-/

namespace NestedTx

open Text

namespace PoolOptions

/-! ### The parameter that counts -/

/-- Does the parameter set the option? It is named like the option, in any case. -/
def Key.sets (k : Key) (p : Url.Pair) : Bool :=
  eqIgnoringCase p.1 k.name.toList

/-- The text that parameters give to an option: none if no parameter sets it, and otherwise that
of the last one that does. -/
inductive Key.Given (k : Key) (pairs : List Url.Pair) : Option (List Char) → Prop
  | unset (never : ∀ p ∈ pairs, k.sets p = false) : k.Given pairs none
  | last {before after : List Url.Pair} {p : Url.Pair} (whole : pairs = before ++ p :: after)
      (sets : k.sets p = true) (final : ∀ q ∈ after, k.sets q = false) : k.Given pairs (some p.2)

/-- The texts of the parameters that set an option, in their order. -/
def Key.texts (k : Key) (pairs : List Url.Pair) : List (List Char) :=
  (pairs.filter k.sets).map (·.2)

variable {k : Key} {pairs pairs' : List Url.Pair} {o : PoolOptions}

lemma ofName?_eq_some_iff {name : List Char} :
    Key.ofName? name = some k ↔ eqIgnoringCase name k.name.toList = true := by
  rw [eqIgnoringCase, Target.lowercase_name, beq_iff_eq]
  constructor
  · intro h
    have named := List.find?_some h
    exact (beq_iff_eq.1 named).symm
  · intro h
    rw [Key.ofName?, h]
    cases k <;> decide

lemma ofName?_beq (p : Url.Pair) : (Key.ofName? p.1 == some k) = k.sets p := by
  rw [Bool.eq_iff_iff, beq_iff_eq, ofName?_eq_some_iff, Key.sets]

lemma value?_eq_getLast? : k.value? pairs = (k.texts pairs).getLast? := by
  simp only [Key.value?, ofName?_beq, Key.texts]
  rw [List.getLast?_map, ← List.head?_filter, List.filter_reverse, List.head?_reverse]

/-- The value of an option is the text that is given to it. -/
lemma value?_eq_iff {text : Option (List Char)} :
    k.value? pairs = text ↔ k.Given pairs text := by
  -- the last pair wins, which is the first one of the reversed list
  simp only [Key.value?, ofName?_beq]
  constructor
  · rintro rfl
    cases found : pairs.reverse.find? (fun p => k.sets p) with
    | none =>
      rw [List.find?_eq_none] at found
      exact .unset fun p hp => by simpa using found p (List.mem_reverse.2 hp)
    | some p =>
      obtain ⟨sets, after, before, whole, final⟩ := List.find?_eq_some_iff_append.1 found
      have split : pairs = before.reverse ++ p :: after.reverse := by
        simpa using congrArg List.reverse whole
      refine .last split sets fun q hq => ?_
      simpa using final q (List.mem_reverse.1 hq)
  · intro h
    cases h with
    | unset never =>
      have found : pairs.reverse.find? (fun p => k.sets p) = none := by
        simpa using never
      rw [found, Option.map_none]
    | last whole sets final =>
      rename_i before after p
      have found : pairs.reverse.find? (fun p => k.sets p) = some p := by
        refine List.find?_eq_some_iff_append.2 ⟨sets, after.reverse, before.reverse, ?_, ?_⟩
        · simp [whole]
        · simpa using final
      rw [found, Option.map_some]

/-! ### What is read -/

/-- A literal of a truth value: `true` or `false` in any case. -/
def IsTruth (cs : List Char) (b : Bool) : Prop :=
  eqIgnoringCase cs (if b then "true" else "false").toList = true

/-- A literal of a natural number of at most `max`. -/
def IsNatural (max : Nat) (cs : List Char) (n : Nat) : Prop :=
  IsLiteral cs n ∧ n ≤ max

lemma bool?_eq_some_iff {cs : List Char} {b : Bool} : bool? cs = some b ↔ IsTruth cs b := by
  have lower : lowercase (if b then "true" else "false").toList =
      (if b then "true" else "false").toList := by
    cases b <;> rfl
  rw [IsTruth, eqIgnoringCase, lower, beq_iff_eq, bool?]
  by_cases yes : lowercase cs = "true".toList
  · rw [if_pos yes, yes]
    cases b <;> decide
  · rw [if_neg yes]
    by_cases no : lowercase cs = "false".toList
    · rw [if_pos no, no]
      cases b <;> decide
    · rw [if_neg no]
      cases b with
      | true => exact iff_of_false (by simp) yes
      | false => exact iff_of_false (by simp) no

/-- The value that parameters give to an option: none if they give it no text, and otherwise what
its text means. -/
inductive Key.Means {α : Type} (k : Key) (IsText : List Char → α → Prop) (pairs : List Url.Pair) :
    Option α → Prop
  | unset (given : k.Given pairs none) : k.Means IsText pairs none
  | set {text : List Char} {a : α} (given : k.Given pairs (some text)) (means : IsText text a) :
      k.Means IsText pairs (some a)

lemma readOption_eq_ok_iff {α : Type} {read? : List Char → Option α}
    {IsText : List Char → α → Prop} (reads : ∀ cs a, read? cs = some a ↔ IsText cs a)
    {a : Option α} : readOption k read? pairs = .ok a ↔ k.Means IsText pairs a := by
  rw [readOption]
  constructor
  · intro h
    cases value : k.value? pairs with
    | none =>
      rw [value] at h
      cases h
      exact .unset (value?_eq_iff.1 value)
    | some text =>
      simp only [value] at h
      split at h
      · rename_i b read
        cases h
        exact .set (value?_eq_iff.1 value) ((reads text b).1 read)
      · cases h
  · intro h
    cases h with
    | unset given => rw [value?_eq_iff.2 given]
    | set given means => simp only [value?_eq_iff.2 given, (reads _ _).2 means]

/-- The options are what the parameters give, and they fit together. -/
structure Sound (pairs : List Url.Pair) (o : PoolOptions) : Prop where
  maxConnections : Key.maxConnections.Means (IsNatural maxU32) pairs o.maxConnections
  minConnections : Key.minConnections.Means (IsNatural maxU32) pairs o.minConnections
  idleTimeout : Key.idleTimeout.Means (IsNatural maxU64) pairs o.idleTimeout
  acquireTimeout : Key.acquireTimeout.Means (IsNatural maxU64) pairs o.acquireTimeout
  testBeforeAcquire : Key.testBeforeAcquire.Means IsTruth pairs o.testBeforeAcquire
  connects : o.maxConnections ≠ some 0
  waits : o.acquireTimeout ≠ some 0
  ordered : ∀ min ∈ o.minConnections, ∀ max ∈ o.maxConnections, min ≤ max

/-- What is read is what the parameters give, option by option. -/
lemma ofPairs_eq_ok_iff : ofPairs pairs = .ok o ↔
    Key.maxConnections.Means (IsNatural maxU32) pairs o.maxConnections ∧
    Key.minConnections.Means (IsNatural maxU32) pairs o.minConnections ∧
    Key.idleTimeout.Means (IsNatural maxU64) pairs o.idleTimeout ∧
    Key.acquireTimeout.Means (IsNatural maxU64) pairs o.acquireTimeout ∧
    Key.testBeforeAcquire.Means IsTruth pairs o.testBeforeAcquire := by
  have natural : ∀ max cs n, natural? max cs = some n ↔ IsNatural max cs n :=
    fun max cs n => natural?_eq_some_iff
  have truth : ∀ cs b, bool? cs = some b ↔ IsTruth cs b := fun cs b => bool?_eq_some_iff
  simp only [← readOption_eq_ok_iff (natural _), ← readOption_eq_ok_iff truth, ofPairs,
    Url.bind_eq_ok_iff]
  constructor
  · rintro ⟨test, htest, max, hmax, min, hmin, idle, hidle, acquire, hacquire, whole⟩
    cases whole
    exact ⟨hmax, hmin, hidle, hacquire, htest⟩
  · rintro ⟨hmax, hmin, hidle, hacquire, htest⟩
    exact ⟨_, htest, _, hmax, _, hmin, _, hidle, _, hacquire, rfl⟩

lemma misfit?_eq_none_iff : o.misfit? = none ↔
    o.maxConnections ≠ some 0 ∧ o.acquireTimeout ≠ some 0 ∧
      ∀ min ∈ o.minConnections, ∀ max ∈ o.maxConnections, min ≤ max := by
  obtain ⟨max, min, idle, acquire, test⟩ := o
  cases max with
  | none => simp [misfit?]
  | some max =>
    by_cases closed : max = 0
    · simp [misfit?, closed]
    · cases min with
      | none => simp [misfit?, closed]
      | some min =>
        by_cases above : max < min
        · simp [misfit?, closed, above]
        · simp [misfit?, closed, above, Nat.not_lt.1 above]

/-- Options are sound if and only if they are read and fit together. -/
lemma sound_iff : Sound pairs o ↔ ofPairs pairs = .ok o ∧ o.misfit? = none := by
  rw [ofPairs_eq_ok_iff, misfit?_eq_none_iff]
  constructor
  · intro h
    exact ⟨⟨h.maxConnections, h.minConnections, h.idleTimeout, h.acquireTimeout,
      h.testBeforeAcquire⟩, h.connects, h.waits, h.ordered⟩
  · rintro ⟨⟨max, min, idle, acquire, test⟩, connects, waits, ordered⟩
    exact ⟨max, min, idle, acquire, test, connects, waits, ordered⟩

/-- Only the texts that each option is given matter, in their order: neither where they stand
between those of other options nor which other parameters there are. -/
lemma ofPairs_congr (same : ∀ k : Key, k.texts pairs = k.texts pairs') :
    ofPairs pairs = ofPairs pairs' := by
  have value : ∀ k : Key, k.value? pairs = k.value? pairs' := by
    intro k
    rw [value?_eq_getLast?, value?_eq_getLast?, same]
  simp only [ofPairs, readOption, value]

lemma Sound.effectiveMax_pos (h : Sound pairs o) : 1 ≤ o.effectiveMax := by
  rw [effectiveMax]
  cases hm : o.maxConnections with
  | none => simp
  | some max =>
    have positive : max ≠ 0 := by
      rintro rfl
      exact h.connects hm
    simpa [Nat.one_le_iff_ne_zero] using positive

lemma Sound.effectiveAcquire_pos (h : Sound pairs o) : 1 ≤ o.effectiveAcquire := by
  rw [effectiveAcquire]
  cases ha : o.acquireTimeout with
  | none => simp
  | some acquire =>
    have positive : acquire ≠ 0 := by
      rintro rfl
      exact h.waits ha
    simpa [Nat.one_le_iff_ne_zero] using positive

end PoolOptions

namespace Target

variable {s : String} {url : Url}

/-- An argument with a name that is not blank is refused or accepted for its URL. -/
lemma parse_of_named (named : (splitName s.toList).1 ≠ some []) :
    parse s = ofUrl (splitName s.toList).1 (splitName s.toList).2 := by
  rw [parse]
  split
  · rename_i cut
    rw [cut] at named
    exact absurd rfl named
  · rename_i cut
    rw [cut]

/-- The pool of an argument depends on the parameters of its URL alone. -/
lemma map_pool_parse (named : (splitName s.toList).1 ≠ some [])
    (read : Url.parse (splitName s.toList).2 = .ok url) :
    (parse s).map (·.pool) = match PoolOptions.ofPairs (queryPairs url) with
      | .error b => .error (.badValue b)
      | .ok pool =>
        match pool.misfit? with
        | some m => .error (.misfit m)
        | none => .ok pool := by
  rw [parse_of_named named, ofUrl_of_parse read]
  cases PoolOptions.ofPairs (queryPairs url) with
  | error b => rfl
  | ok pool =>
    cases hm : pool.misfit? with
    | some m => simp only [hm, Except.map]
    | none => simp only [hm, Except.map, ofParts]

lemma map_eq_ok_iff {ε α β : Type} {f : α → β} {x : Except ε α} {b : β} :
    x.map f = .ok b ↔ ∃ a, x = .ok a ∧ f a = b := by
  cases x <;> simp [Except.map]

lemma map_pool_parse_ok_iff (named : (splitName s.toList).1 ≠ some [])
    (read : Url.parse (splitName s.toList).2 = .ok url) {o : PoolOptions} :
    (∃ t, parse s = .ok t ∧ t.pool = o) ↔ PoolOptions.Sound (queryPairs url) o := by
  rw [← map_eq_ok_iff, map_pool_parse named read, PoolOptions.sound_iff]
  cases PoolOptions.ofPairs (queryPairs url) with
  | error b => simp
  | ok pool =>
    cases hm : pool.misfit? with
    | some m =>
      simp only [hm, reduceCtorEq, Except.ok.injEq, false_iff, not_and]
      rintro rfl
      simp [hm]
    | none =>
      simp only [hm, Except.ok.injEq]
      refine ⟨?_, And.left⟩
      rintro rfl
      exact ⟨rfl, hm⟩

/-- An argument whose URL can be read is accepted with just the options that are sound: the last
parameter for each option counts. Its settings are then usable, and where the options stand among
each other and among other parameters makes no difference, for a refusal neither. -/
theorem accepts_sound_options (named : (splitName s.toList).1 ≠ some [])
    (read : Url.parse (splitName s.toList).2 = .ok url) :
    (∀ o, (∃ t, parse s = .ok t ∧ t.pool = o) ↔ PoolOptions.Sound (queryPairs url) o) ∧
    (∀ t, parse s = .ok t → 1 ≤ t.pool.effectiveMax ∧
      t.pool.effectiveMin ≤ t.pool.effectiveMax ∧ 1 ≤ t.pool.effectiveAcquire) ∧
    ∀ (s' : String) (url' : Url), (splitName s'.toList).1 ≠ some [] →
      Url.parse (splitName s'.toList).2 = .ok url' →
      (∀ k : PoolOptions.Key, k.texts (queryPairs url) = k.texts (queryPairs url')) →
      (parse s').map (·.pool) = (parse s).map (·.pool) := by
  refine ⟨fun o => map_pool_parse_ok_iff named read, ?_, ?_⟩
  · intro t accepted
    have sound : PoolOptions.Sound (queryPairs url) t.pool :=
      (map_pool_parse_ok_iff named read).1 ⟨t, accepted, rfl⟩
    exact ⟨sound.effectiveMax_pos, t.pool.effectiveMin_le_effectiveMax,
      sound.effectiveAcquire_pos⟩
  · intro s' url' named' read' same
    rw [map_pool_parse named read, map_pool_parse named' read', PoolOptions.ofPairs_congr same]

/-- A bad value that a later one overrides, names in any case, one of them encoded, a plus sign in
front of a number and a parameter for the driver. -/
def restatedArgument : String :=
  "sqlite:a.db?MAX_connections=lots&test%5Fbefore_acquire=True&c=1&max_connections=%2B4"

/-- The URL of that argument. -/
def restatedUrl : Url where
  scheme := "sqlite".toList
  authority := none
  path := .rootless "a.db".toList
  query :=
    some "MAX_connections=lots&test%5Fbefore_acquire=True&c=1&max_connections=%2B4".toList
  fragment := none

/-- The same options in another order, in another URL. -/
def reorderedUrl : Url where
  scheme := "sqlite".toList
  authority := none
  path := .rootless "b.db".toList
  query := some "max_connections=lots&max_connections=%2B4&test_before_acquire=True".toList
  fragment := none

/-- The options of both. -/
def restatedPool : PoolOptions :=
  { PoolOptions.unset with maxConnections := some 4, testBeforeAcquire := some true }

theorem accepts_sound_options_restated :
    (splitName restatedArgument.toList).1 ≠ some [] ∧
    Url.parse (splitName restatedArgument.toList).2 = .ok restatedUrl ∧
    PoolOptions.Sound (queryPairs restatedUrl) restatedPool ∧
    (1 ≤ restatedPool.effectiveMax ∧ restatedPool.effectiveMin ≤ restatedPool.effectiveMax ∧
      1 ≤ restatedPool.effectiveAcquire) ∧
    (parse (String.ofList reorderedUrl.text)).map (·.pool) =
      (parse restatedArgument).map (·.pool) := by
  have named : (splitName restatedArgument.toList).1 ≠ some [] := by decide +kernel
  have read : Url.parse (splitName restatedArgument.toList).2 = .ok restatedUrl := by
    decide +kernel
  have pairs : queryPairs restatedUrl = [("MAX_connections".toList, "lots".toList),
      ("test_before_acquire".toList, "True".toList), ("c".toList, "1".toList),
      ("max_connections".toList, "+4".toList)] := by
    decide +kernel
  have pairs' : queryPairs reorderedUrl = [("max_connections".toList, "lots".toList),
      ("max_connections".toList, "+4".toList), ("test_before_acquire".toList, "True".toList)] := by
    decide +kernel
  have accepted : ∃ t, parse restatedArgument = .ok t ∧ t.pool = restatedPool := by
    rw [← map_eq_ok_iff, map_pool_parse named read, pairs]
    decide +kernel
  obtain ⟨sound, usable, unordered⟩ := accepts_sound_options named read
  refine ⟨named, read, (sound _).1 accepted, ?_, ?_⟩
  · obtain ⟨t, whole, pool⟩ := accepted
    rw [← pool]
    exact usable t whole
  · refine unordered _ reorderedUrl (by decide +kernel) (by decide +kernel) ?_
    intro k
    rw [pairs, pairs']
    cases k <;> decide +kernel

end Target

end NestedTx
