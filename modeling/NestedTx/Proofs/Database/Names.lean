import NestedTx.Proofs.Database.PoolOptions
import NestedTx.Proofs.Text.Trimming

/-!
# Names of targets

A name in front of a URL has no part in how the URL is read, and the URL none in the name.
-/

namespace NestedTx

open Text

namespace Target

/-! ### Names in front of URLs -/

variable {name url : String}

lemma splitName_named (equals : '=' ∉ name.toList) (colon : ':' ∉ name.toList) (url : String) :
    splitName (name ++ "=" ++ url).toList = (some (trimBlank name.toList), url.toList) := by
  have word : (name.toList ++ '=' :: url.toList).takeWhile (· != ':') =
      name.toList ++ '=' :: url.toList.takeWhile (· != ':') := by
    rw [takeWhile_ne_append colon]
    simp
  have whole : (name ++ "=" ++ url).toList = name.toList ++ '=' :: url.toList := by simp
  rw [whole, splitName, word, Url.splitFirst?_append equals, Url.splitFirst?_cons_self]
  simp

lemma splitName_unnamed (plain : '=' ∉ url.toList.takeWhile (· != ':')) :
    splitName url.toList = (none, url.toList) := by
  rw [splitName, Url.splitFirst?_eq_none_iff.2 plain]

/-- The name only becomes the name. -/
lemma ofUrl_some (name cs : List Char) :
    ofUrl (some name) cs =
      (ofUrl none cs).map fun t => { t with name := String.ofList name } := by
  cases read : Url.parse cs with
  | error e => simp only [ofUrl, read]; rfl
  | ok url =>
    rw [ofUrl_of_parse read, ofUrl_of_parse read]
    split
    · rfl
    · split <;> rfl

/-- A name in front of a URL is taken without the white space around it, and has no part in whether
the URL is accepted, why it is refused and what is made of it. A name that is all white space is
refused whatever follows it. -/
theorem parse_named (name : String) :
    ((∀ c ∈ name.toList, isBlank c = true) →
      ∀ url, parse (name ++ "=" ++ url) = .error .emptyName) ∧
    ((∃ c ∈ name.toList, isBlank c = false) → '=' ∉ name.toList → ':' ∉ name.toList →
      ∃ core : String, Trimmed isBlank name.toList core.toList ∧
        ∀ url : String, '=' ∉ url.toList.takeWhile (· != ':') →
          parse (name ++ "=" ++ url) = (parse url).map fun t => { t with name := core }) := by
  constructor
  · intro blank url
    have apart {c : Char} (hc : isBlank c = false) : c ∉ name.toList := by
      intro h
      rw [blank c h] at hc
      cases hc
    have nothing : trimBlank name.toList = [] :=
      trimWhere_eq_iff.2 ⟨⟨name.toList, [], by simp, blank, by simp⟩, by simp, by simp⟩
    rw [parse, splitName_named (apart rfl) (apart rfl), nothing]
  · rintro ⟨c, hc, visible⟩ equals colon
    have trimmed := trimmed_trimWhere isBlank name.toList
    have some : trimBlank name.toList ≠ [] := by
      intro nothing
      rw [trimBlank] at nothing
      obtain ⟨lead, trail, whole, before, behind⟩ := trimmed.around
      rw [nothing, List.append_nil] at whole
      rw [whole, List.mem_append] at hc
      rw [hc.elim (before c) (behind c)] at visible
      cases visible
    refine ⟨String.ofList (trimBlank name.toList), by rwa [String.toList_ofList], ?_⟩
    intro url plain
    have named : (splitName (name ++ "=" ++ url).toList).1 ≠ .some [] := by
      rw [splitName_named equals colon]
      simpa using some
    -- read alone, the URL is not split: no equals sign stands before its colon
    have unnamed : (splitName url.toList).1 ≠ .some [] := by
      simp [splitName_unnamed plain]
    rw [parse_of_named named, parse_of_named unnamed, splitName_named equals colon,
      splitName_unnamed plain, ofUrl_some]

/-- A name among blanks, in front of a URL with a `=` of its own and of nothing, and a name that is
only blanks. -/
theorem parse_named_spaced :
    parse "  main\t=sqlite:data/app.db?mode=rwc" =
      .ok ⟨"main", "sqlite:data/app.db?mode=rwc", some "app", PoolOptions.unset⟩ ∧
    parse "  main\t=" = .error (.invalidUrl .relativeWithoutBase) ∧
    parse " \t=sqlite:data/app.db?mode=rwc" = .error .emptyName := by
  obtain ⟨core, trimmed, named⟩ := (parse_named "  main\t").2
    ⟨'m', by decide +kernel, by decide +kernel⟩ (by decide +kernel) (by decide +kernel)
  have own : core = "main" := by
    rw [← String.toList_inj, ← trimWhere_eq_iff.2 trimmed]
    decide +kernel
  have accepted : parse "sqlite:data/app.db?mode=rwc" =
      .ok ⟨"app", "sqlite:data/app.db?mode=rwc", some "app", PoolOptions.unset⟩ := by
    decide +kernel
  have refused : parse "" = .error (.invalidUrl .relativeWithoutBase) := by decide +kernel
  have blank := (parse_named " \t").1 (List.all_eq_true.1 (by decide +kernel))
    "sqlite:data/app.db?mode=rwc"
  refine ⟨?_, ?_, blank⟩
  · have read := named "sqlite:data/app.db?mode=rwc" (by decide +kernel)
    rwa [accepted, own] at read
  · have read := named "" (by decide +kernel)
    rwa [refused] at read

/-! ### Names out of URLs -/

/-- `stem` is what is left of the last piece of a path without the copies of `.sqlite` and then
those of `.db` at its end. -/
inductive Stem : List Char → List Char → Prop
  | intro {folder last trunk stem : List Char} {j k : Nat}
      (below : ∀ c ∈ folder.getLast?, c = '/') (alone : '/' ∉ last)
      (sqlite : last = trunk ++ copies j ".sqlite".toList) (no_sqlite : ¬".sqlite".toList <:+ trunk)
      (db : trunk = stem ++ copies k ".db".toList) (no_db : ¬".db".toList <:+ stem) :
      Stem (folder ++ last) stem

variable {path stem : List Char} {url : Url} {s : String} {t : Target} {kind : DatabaseKind}

lemma exists_last_piece (path : List Char) :
    ∃ folder, path = folder ++ (path.splitOn '/').getLastD [] ∧
      (∀ c ∈ folder.getLast?, c = '/') ∧ '/' ∉ (path.splitOn '/').getLastD [] := by
  by_cases slash : '/' ∈ path
  · obtain ⟨last, folder, reversed, alone⟩ := List.eq_append_cons_of_mem (List.mem_reverse.2 slash)
    have whole : path = folder.reverse ++ '/' :: last.reverse := by
      simpa using congrArg List.reverse reversed
    rw [← List.mem_reverse] at alone
    refine ⟨folder.reverse ++ ['/'], ?_⟩
    rw [whole, List.splitOn_append_cons_self, List.splitOn_eq_singleton alone]
    simpa using alone
  · rw [List.splitOn_eq_singleton slash]
    exact ⟨[], rfl, nofun, slash⟩

/-- The name of a database is the stem of its path, if there is one. -/
lemma exists_stem (path : List Char) :
    ∃ stem, Stem path stem ∧ databaseName? path = if stem = [] then none else some stem := by
  obtain ⟨folder, whole, below, alone⟩ := exists_last_piece path
  obtain ⟨⟨j, sqlite⟩, no_sqlite⟩ := (trimEnd_eq_iff (by decide)).1
    (rfl : trimEnd ".sqlite".toList ((path.splitOn '/').getLastD []) = _)
  obtain ⟨⟨k, db⟩, no_db⟩ := (trimEnd_eq_iff (by decide)).1
    (rfl : trimEnd ".db".toList (trimEnd ".sqlite".toList ((path.splitOn '/').getLastD [])) = _)
  refine ⟨_, ?_, rfl⟩
  have cut := Stem.intro below alone sqlite no_sqlite db no_db
  rwa [← whole] at cut

lemma Stem.subset (h : Stem path stem) : stem ⊆ path := by
  obtain ⟨-, -, rfl, -, rfl, -⟩ := h
  intro c hc
  simp [hc]

/-- Nothing outside ASCII is left in the path of a URL. -/
lemma ascii_of_mem_stripped_path {cs : List Char} (read : Url.parse cs = .ok url) :
    ∀ c ∈ (stripPoolOptions url).path.text, c.toNat < 0x80 := by
  have encoded := (Url.frontEncoded_of_parse read).path.not_inControlSet
  have fewer : (stripPoolOptions url).path.text ⊆ url.path.text := by
    rw [stripPoolOptions_eq]
    rcases @Url.withQuery_path url (driverQuery? url) with same | ⟨text, k, long, short⟩
    · rw [← same]
      exact List.Subset.refl _
    · rw [long, short]
      exact List.subset_append_left _ _
  intro c hc
  have outside := encoded c (fewer hc)
  rw [Url.inControlSet, Bool.or_eq_false_iff, decide_eq_false_iff_not,
    decide_eq_false_iff_not] at outside
  omega

/-- A target without a name of its own is called after its path. -/
lemma exists_stem_of_parse (plain : '=' ∉ s.toList.takeWhile (· != ':')) (h : parse s = .ok t) :
    ∃ url stem, Url.parse s.toList = .ok url ∧
      t.connectionString = String.ofList (stripPoolOptions url).text ∧
      Stem (stripPoolOptions url).path.text stem ∧
      t.name = if stem = [] then "default" else String.ofList stem := by
  rw [parse_of_named (by simp [splitName_unnamed plain]), splitName_unnamed plain] at h
  obtain ⟨url, pool, read, rfl⟩ := exists_parts_of_ofUrl h
  obtain ⟨stem, cut, found⟩ := exists_stem (stripPoolOptions url).path.text
  refine ⟨url, stem, read, rfl, cut, ?_⟩
  simp only [ofParts, found]
  split_ifs <;> rfl

/-- May the character of ASCII stand in an id? -/
def inPlainId (c : Char) : Bool :=
  c.isAlphanum || c == '-' || c == '_'

/-- A URL without a name in front is registered under the stem of its path, or as `default`. This
goes through if and only if the name has nothing but letters, digits, `-` and `_` of ASCII in it,
and is refused for the name otherwise. -/
theorem config_of_unnamed (plain : '=' ∉ s.toList.takeWhile (· != ':')) (h : parse s = .ok t)
    (known : DatabaseKind.ofConnectionString? t.connectionString = some kind) :
    (∃ url stem, Url.parse s.toList = .ok url ∧
      t.connectionString = String.ofList (stripPoolOptions url).text ∧
      Stem (stripPoolOptions url).path.text stem ∧
      t.name = if stem = [] then "default" else String.ofList stem) ∧
    ∀ timeout, t.config timeout =
      if t.name.toList.all inPlainId
        then .ok ⟨t.name, kind, t.connectionString, t.pool, some timeout⟩
        else .error (.invalidId t.name) := by
  obtain ⟨url, stem, read, written, cut, name⟩ := exists_stem_of_parse plain h
  refine ⟨⟨url, stem, read, written, cut, name⟩, fun timeout => ?_⟩
  have some : t.name.isEmpty = false := by
    rw [name]
    split_ifs with empty
    · rfl
    · simpa using empty
  -- a name that comes from a path is ASCII, since the parser encodes all the rest
  have ascii : ∀ c ∈ t.name.toList, c.toNat < 0x80 := by
    rw [name]
    split_ifs
    · exact List.forall_iff_forall_mem.1 (by decide)
    · rw [String.toList_ofList]
      exact fun c hc => ascii_of_mem_stripped_path read c (cut.subset hc)
  -- the check allows the letters of every script, but only these can occur here
  have same : t.name.toList.all ConnectionConfig.inId = t.name.toList.all inPlainId := by
    rw [Bool.eq_iff_iff, List.all_eq_true, List.all_eq_true]
    refine forall₂_congr fun c hc => ?_
    rw [ConnectionConfig.inId, inPlainId, isAlphanumeric_of_ascii (ascii c hc)]
  rw [config, ConnectionConfig.make, some, same, known]
  cases t.name.toList.all inPlainId <;> rfl

/-- A database in a file. -/
theorem config_of_unnamed_file :
    parse "sqlite:data/app.db" =
      .ok ⟨"app", "sqlite:data/app.db", some "app", PoolOptions.unset⟩ ∧
    (⟨"app", "sqlite:data/app.db", some "app", PoolOptions.unset⟩ : Target).config 30 =
      .ok ⟨"app", .sqlite, "sqlite:data/app.db", PoolOptions.unset, some 30⟩ := by
  have read : parse "sqlite:data/app.db" =
      .ok ⟨"app", "sqlite:data/app.db", some "app", PoolOptions.unset⟩ := by
    decide +kernel
  have known : DatabaseKind.ofConnectionString? "sqlite:data/app.db" = some .sqlite := by
    decide +kernel
  obtain ⟨-, built⟩ := config_of_unnamed (by decide +kernel) read known
  refine ⟨read, ?_⟩
  rw [built, if_pos (by decide +kernel)]

/-- A database in memory has a colon in its name. -/
theorem config_of_memory :
    '=' ∉ "sqlite::memory:".toList.takeWhile (· != ':') ∧
    parse "sqlite::memory:" =
      .ok ⟨":memory:", "sqlite::memory:", some ":memory:", PoolOptions.unset⟩ ∧
    DatabaseKind.ofConnectionString? "sqlite::memory:" = some .sqlite ∧
    (⟨":memory:", "sqlite::memory:", some ":memory:", PoolOptions.unset⟩ : Target).config 30 =
      .error (.invalidId ":memory:") := by
  decide +kernel

end Target

end NestedTx
