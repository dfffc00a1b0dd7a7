import Mathlib.Data.List.Forall2
import NestedTx.Proofs.Command.Report

/-!
# Checks one after the other

The command makes its checks in the order of the arguments, and what they have registered is all
that its registry holds. In the end it empties the registry and closes what was in it.
-/

namespace NestedTx.Command

open Dialogue Registration

variable {n : Nat} {h h' : Holdings} {l : List HostExchange} {checks : List Check} {name : String}

/-! ### Series of checks -/

/-- Checks that follow each other, with what is shared before and after. -/
inductive Series (n : Nat) : Holdings → List Check → Holdings → Prop
  | nil (h : Holdings) : Series n h [] h
  | cons {h h₁ h' : Holdings} {c : Check} {rest : List Check}
      (checked : Checked n c.target h c.calls c.report h₁) (series : Series n h₁ rest h') :
      Series n h (c :: rest) h'

lemma Series.of_course {targets : List Target} {reports : List Report}
    (course : Course (checkEach n targets) l reports) (path : Path Answers h l h') :
    ∃ checks, Series n h checks h' ∧ checks.map Check.target = targets ∧
      checks.map Check.report = reports ∧ l = checks.flatMap Check.calls := by
  induction targets generalizing h l reports with
  | nil =>
    obtain ⟨rfl, rfl⟩ := course_answer_iff.1 course
    obtain rfl := path_nil_iff.1 path
    exact ⟨[], .nil h', rfl, rfl, rfl⟩
  | cons t targets ih =>
    obtain ⟨first, later, report, rfl, checking, others⟩ := course_andThen_iff.1 course
    obtain ⟨reports, rest, rfl⟩ := course_andThen_answer_iff.1 others
    obtain ⟨h₁, path₁, path₂⟩ := path_append_iff.1 path
    obtain ⟨checks, series, rfl, rfl, rfl⟩ := ih rest path₂
    exact ⟨⟨t, first, report⟩ :: checks, .cons (Checked.of_course checking path₁) series,
      rfl, rfl, rfl⟩

lemma Series.split {before after : List Check} (series : Series n h (before ++ after) h') :
    ∃ h₁, Series n h before h₁ ∧ Series n h₁ after h' := by
  induction before generalizing h with
  | nil => exact ⟨h, .nil h, series⟩
  | cons c before ih =>
    cases series with
    | cons checked series =>
      obtain ⟨h₁, first, later⟩ := ih series
      exact ⟨h₁, .cons checked first, later⟩

/-- A check adds its name to the registry if it registers the database. -/
lemma Checked.contains {t : Target} {report : Report} (checked : Checked n t h l report h') :
    h'.registry.contains name = true ↔
      h.registry.contains name = true ∨ t.name = name ∧ ∃ r, ⟨.claim t.name r, true⟩ ∈ l := by
  cases checked with
  | refused | taken | notConnected => simp
  | @registered _ _ _ r =>
    rw [Registry.contains_claim, Bool.or_eq_true, beq_iff_eq, eq_comm (a := name)]
    refine or_congr_right (iff_self_and.2 fun _ => ⟨r, by simp⟩)

lemma Series.contains (series : Series n h checks h') :
    h'.registry.contains name = true ↔
      h.registry.contains name = true ∨ ∃ b ∈ checks, b.target.name = name ∧ b.Registered := by
  induction series with
  | nil => simp
  | @cons _ _ _ c rest checked _ ih =>
    rw [ih, checked.contains, or_assoc]
    simp only [List.mem_cons, exists_eq_or_imp, Check.Registered]

/-- What was opened was registered, and the registry holds it. -/
lemma Series.held (series : Series n h checks h') :
    opened (checks.flatMap Check.calls) = claimed (checks.flatMap Check.calls) ∧
      (h'.registry.entries.map (·.2)).Perm
        (claimed (checks.flatMap Check.calls) ++ h.registry.entries.map (·.2)) := by
  induction series with
  | nil => exact ⟨rfl, .refl _⟩
  | @cons h h₁ _ c rest checked _ ih =>
    rw [List.flatMap_cons, opened_append, claimed_append, checked.opened_eq, ih.1]
    refine ⟨rfl, ih.2.trans ((checked.held.append_left _).trans ?_)⟩
    rw [← List.append_assoc]
    exact List.perm_append_comm.append_right _

/-! ### The end -/

/-- The closing of a resource. -/
def closing (r : ResourceId) : HostExchange :=
  ⟨.resource (.close r), ()⟩

lemma of_course_closeEach {rs : List ResourceId} {u : Unit} (course : Course (closeEach rs) l u)
    (path : Path Answers h l h') :
    l = rs.map closing ∧ h'.registry = h.registry ∧ h'.closed = rs.reverse ++ h.closed := by
  induction rs generalizing h l with
  | nil =>
    obtain ⟨rfl, -⟩ := course_answer_iff.1 course
    obtain rfl := path_nil_iff.1 path
    exact ⟨rfl, rfl, rfl⟩
  | cons r rest ih =>
    obtain ⟨⟨⟩, l, rfl, others⟩ := course_ask_iff.1 course
    obtain ⟨h₁, answers, path₁⟩ := path_cons_iff.1 path
    obtain rfl := answers.closed
    obtain ⟨rfl, registry, closed⟩ := ih others path₁
    refine ⟨rfl, registry, ?_⟩
    rw [closed, List.reverse_cons, List.append_assoc]
    rfl

/-- In the end the registry is empty, and all that was in it is closed. -/
lemma of_course_closeAll {u : Unit} (course : Course closeAll l u) (path : Path Answers h l h') :
    l = ⟨.drain, h.registry.entries.map (·.2)⟩ :: (h.registry.entries.map (·.2)).map closing ∧
      h'.registry = .empty ∧ h'.closed = (h.registry.entries.map (·.2)).reverse ++ h.closed := by
  obtain ⟨rs, l, rfl, others⟩ := course_ask_iff.1 course
  obtain ⟨h₁, answers, path₁⟩ := path_cons_iff.1 path
  obtain ⟨rfl, rfl⟩ := answers.drained
  obtain ⟨rfl, registry, closed⟩ := of_course_closeEach others path₁
  exact ⟨rfl, registry, closed⟩

lemma Checked.closed {t : Target} {report : Report} (checked : Checked n t h l report h') :
    h'.closed = h.closed := by
  cases checked <;> rfl

lemma Series.closed (series : Series n h checks h') : h'.closed = h.closed := by
  induction series with
  | nil => rfl
  | cons checked _ ih => exact ih.trans checked.closed

/-! ### Reading the arguments -/

/-- All values are read, or the reading ends with the refusal of one of them. -/
lemma mapM_cases {α β ε : Type} (f : α → Except ε β) (l : List α) :
    (∃ m, l.mapM f = .ok m ∧ List.Forall₂ (fun a b => f a = .ok b) l m ∧
        ∀ a ∈ l, ∃ b, f a = .ok b) ∨
      ∃ e, l.mapM f = .error e ∧ ∃ a ∈ l, f a = .error e := by
  induction l with
  | nil => exact .inl ⟨[], rfl, .nil, List.forall_mem_nil _⟩
  | cons a l ih =>
    rw [List.mapM_cons]
    cases read : f a with
    | error e => exact .inr ⟨e, rfl, a, List.mem_cons_self, read⟩
    | ok b =>
      obtain ⟨m, rest, pairs, all⟩ | ⟨e, rest, a', ha', refused⟩ := ih
      · rw [rest]
        exact .inl ⟨b :: m, rfl, .cons read pairs, List.forall_mem_cons.2 ⟨⟨b, read⟩, all⟩⟩
      · rw [rest]
        exact .inr ⟨e, rfl, a', List.mem_cons_of_mem _ ha', refused⟩

lemma exitCode_iff (reports : List Report) :
    ((if reports.any (·.error.isSome) then 1 else 0) = 1 ↔
        ∃ report ∈ reports, report.error.isSome) ∧
      ((if reports.any (·.error.isSome) then 1 else 0) = 0 ↔
        ∀ report ∈ reports, report.error = none) := by
  have none : reports.any (·.error.isSome) = false ↔ ∀ report ∈ reports, report.error = none := by
    simp
  rw [← List.any_eq_true, ← none]
  cases reports.any (·.error.isSome) <;> simp

variable {o : Options}

lemma checkAll_of_unreadable
    (h : o.databases = [] ∨ ∃ a ∈ o.databases, ∃ refusal, Target.parse a = .error refusal) :
    ∃ complaint, checkAll o = .answer ⟨[], 1, complaint⟩ := by
  rw [checkAll]
  split
  · exact ⟨_, rfl⟩
  · next named =>
    obtain ⟨a, ha, refusal, refused⟩ := h.resolve_left named
    obtain ⟨m, -, -, all⟩ | ⟨e, read, -⟩ := mapM_cases Target.parse o.databases
    · obtain ⟨t, read⟩ := all a ha
      cases read.symm.trans refused
    · rw [read]
      exact ⟨_, rfl⟩

lemma checkAll_of_readable (named : o.databases ≠ [])
    (readable : ∀ a ∈ o.databases, ∃ t, Target.parse a = .ok t) :
    ∃ targets, List.Forall₂ (fun a t => Target.parse a = .ok t) o.databases targets ∧
      checkAll o = (checkEach o.queryTimeout targets).andThen fun reports =>
        closeAll.andThen fun _ =>
          .answer ⟨reports, if reports.any (·.error.isSome) then 1 else 0, ""⟩ := by
  obtain ⟨targets, read, pairs, -⟩ | ⟨e, -, a, ha, refused⟩ := mapM_cases Target.parse o.databases
  · refine ⟨targets, pairs, ?_⟩
    rw [checkAll, if_neg named, read]
    rfl
  · obtain ⟨t, read⟩ := readable a ha
    cases read.symm.trans refused

/-- The command reports faithfully on the databases it is given, and leaves nothing behind. If none
is given, or one that cannot be read, it ends at once with exit code 1 and no report. Otherwise it
comes to an end whatever is replied, with one report for each argument, made by one check after the
other. A name is taken if a check before has registered it, whatever else came of that check; a name
under which nothing could be opened is free. Each resource that was opened is in the registry at the
end of the checks and is closed then, and the exit code is 1 if there is an error in a report. -/
theorem reports_faithfully (o : Options) :
    (o.databases = [] ∨ (∃ a ∈ o.databases, ∃ refusal, Target.parse a = .error refusal) →
      ∃ complaint, checkAll o = .answer ⟨[], 1, complaint⟩) ∧
    (∀ (answer : Holdings → (call : HostCall) → call.Reply × Holdings) (h : Holdings),
      ∃ l ending h', Course (checkAll o) l ending ∧
        Path (fun h x h' => (x.2, h') = answer h x.1) h l h') ∧
    (o.databases ≠ [] → (∀ a ∈ o.databases, ∃ t, Target.parse a = .ok t) →
      ∀ l ending h', Course (checkAll o) l ending → Path Answers ⟨.empty, [], []⟩ l h' →
        ∃ checks rs,
          List.Forall₂ (fun a c => Target.parse a = .ok c.target) o.databases checks ∧
          ending.reports = checks.map Check.report ∧
          (∀ before c after, checks = before ++ c :: after →
            c.Faithful o.queryTimeout before) ∧
          l = checks.flatMap Check.calls ++ ⟨.drain, rs⟩ :: rs.map closing ∧
          rs.Perm (claimed (checks.flatMap Check.calls)) ∧
          opened (checks.flatMap Check.calls) = claimed (checks.flatMap Check.calls) ∧
          h'.registry = .empty ∧ h'.closed.Perm rs ∧
          (ending.exitCode = 1 ↔ ∃ report ∈ ending.reports, report.error.isSome) ∧
          (ending.exitCode = 0 ↔ ∀ report ∈ ending.reports, report.error = none)) := by
  refine ⟨checkAll_of_unreadable, exists_path (checkAll o), ?_⟩
  intro named readable l ending h' course path
  obtain ⟨targets, pairs, all⟩ := checkAll_of_readable named readable
  rw [all] at course
  obtain ⟨first, later, reports, rfl, checking, rest⟩ := course_andThen_iff.1 course
  obtain ⟨⟨⟩, ended, rfl⟩ := course_andThen_answer_iff.1 rest
  obtain ⟨h₁, path₁, path₂⟩ := path_append_iff.1 path
  obtain ⟨checks, series, rfl, rfl, rfl⟩ := Series.of_course checking path₁
  obtain ⟨rfl, registry, closed⟩ := of_course_closeAll ended path₂
  obtain ⟨opened, held⟩ := series.held
  -- what is drained is what the registry lists after the last check
  refine ⟨checks, h₁.registry.entries.map (·.2), ?_, rfl, ?_, rfl, ?_, opened, registry, ?_, ?_, ?_⟩
  · rwa [List.forall₂_map_right_iff] at pairs
  · rintro before c after rfl
    -- the registry met by a check holds the names of the checks before it, and only those
    obtain ⟨h₂, first, later⟩ := series.split
    cases later with
    | cons checked _ =>
      refine checked.faithful ?_
      rw [first.contains]
      exact or_iff_right Bool.false_ne_true
  · exact held.trans (.of_eq (List.append_nil _))
  · rw [closed, series.closed, List.append_nil]
    exact List.reverse_perm _
  · exact (exitCode_iff _).1
  · exact (exitCode_iff _).2

/-- The first of two databases of one name is registered, but no transaction can be begun on it; the
second finds the name taken. -/
theorem reports_faithfully_namesakes :
    ∃ o l ending h', Course (checkAll o) l ending ∧ Path Answers ⟨.empty, [], []⟩ l h' ∧
      o.databases = ["orders=sqlite:main.db", "orders=sqlite:copy.db"] ∧
      ending.reports.map Report.error =
        [some "Failed to begin transaction: Internal error: busy",
          some "Database name conflict: 'orders' is already registered"] ∧
      ending.exitCode = 1 ∧ h'.closed = [⟨7⟩] ∧
      ∃ checks : List Check, ending.reports = checks.map Check.report ∧
        ∀ before c after, checks = before ++ c :: after → c.Faithful o.queryTimeout before := by
  let o : Options := ⟨["orders=sqlite:main.db", "orders=sqlite:copy.db"], 30, "info", false⟩
  have readable : ∀ a ∈ o.databases, ∃ t, Target.parse a = .ok t :=
    List.forall_mem_cons.2 ⟨⟨⟨"orders", "sqlite:main.db", some "main", .unset⟩, rfl⟩,
      List.forall_mem_singleton.2 ⟨⟨"orders", "sqlite:copy.db", some "copy", .unset⟩, rfl⟩⟩
  let config : ConnectionConfig := ⟨"orders", .sqlite, "sqlite:main.db", .unset, some 30⟩
  let l : List HostExchange :=
    [⟨.contains "orders", false⟩, ⟨.connect config, .ok ⟨7⟩⟩, ⟨.version ⟨7⟩, none⟩,
      ⟨.claim "orders" ⟨7⟩, true⟩, ⟨.lookup "orders", .ok ⟨7⟩⟩, ⟨.freshId, "prv_1"⟩,
      ⟨.clock, (0 : Nat)⟩, ⟨.resource (.ping ⟨7⟩), .ok ()⟩, ⟨.clock, (3 : Nat)⟩,
      ⟨.lookup "orders", .ok ⟨7⟩⟩, ⟨.freshId, "prv_2"⟩,
      ⟨.resource (.begin ⟨7⟩), .error (.internal "busy")⟩, ⟨.contains "orders", true⟩,
      ⟨.drain, [⟨7⟩]⟩, closing ⟨7⟩]
  have course : Course (checkAll o) l _ :=
    .ask _ <| .ask _ <| .ask _ <| .ask _ <| .ask _ <| .ask _ <| .ask _ <| .ask _ <| .ask _ <|
      .ask _ <| .ask _ <| .ask _ <| .ask _ <| .ask _ <| .ask _ <| .answer _
  have path : Path Answers ⟨.empty, [], []⟩ l _ :=
    .cons (.shared (.contains "orders")) <| .cons (.shared (.connected config (by decide))) <|
    .cons (.shared (.version ⟨7⟩ none)) <| .cons (.shared (.claim "orders" ⟨7⟩)) <|
    .cons (.lookup "orders") <| .cons (.freshId "prv_1") <| .cons (.clock 0) <|
    .cons (.call (by simp) _) <| .cons (.clock 3) <|
    .cons (.lookup "orders") <| .cons (.freshId "prv_2") <| .cons (.call (by simp) _) <|
    .cons (.shared (.contains "orders")) <|
    .cons (.shared .drained) <| .cons (.shared (.closed ⟨7⟩)) <| .nil _
  obtain ⟨-, -, faithful⟩ := reports_faithfully o
  obtain ⟨checks, rs, -, reports, each, -⟩ := faithful (by decide) readable l _ _ course path
  exact ⟨o, l, _, _, course, path, rfl, rfl, rfl, rfl, checks, reports, each⟩

end NestedTx.Command
