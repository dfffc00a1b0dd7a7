import Mathlib.Data.List.Induction
import Mathlib.Data.List.Nodup
import Mathlib.Data.List.Perm.Basic
import NestedTx.Proofs.Registry.History

/-!
# The ledger of a registry

What was put into a registry is in one place afterwards: it still stands, it was handed out by one
call, or it was taken by one of the calls that close everything, which closes it once. A ledger says
where everything is, and each step moves what it has to move from one place to another.
-/

namespace NestedTx.Registry

open Dialogue Registration

/-! ### What a history says -/

/-- A resource that was put in or taken out under a name, and when. -/
structure Transfer where
  moment : Nat
  name : String
  resource : ResourceId
  deriving DecidableEq

/-- The entry that a transfer makes. -/
def Transfer.entry (d : Transfer) : String × ResourceId := (d.name, d.resource)

namespace Event

/-- What is put in. -/
def deposit? : Event → Option (String × ResourceId)
  | register name r (.ok ()) => some (name, r)
  | _ => none

/-- What is handed out. -/
def withdrawal? : Event → Option (String × ResourceId)
  | unregister name (.ok r) => some (name, r)
  | _ => none

/-- What one of the calls that close everything does. -/
def exchange? (i : Nat) : Event → Option HostExchange
  | sweep j x => if j = i then some x else none
  | _ => none

end Event

variable {kind : Event → Option (String × ResourceId)} {history : List Event} {event : Event}
  {d : Transfer} {i m : Nat}

def transfers (kind : Event → Option (String × ResourceId)) (history : List Event) :
    List Transfer :=
  history.zipIdx.filterMap fun x => (kind x.1).map fun e => ⟨x.2, e.1, e.2⟩

/-- All that was put in, in the order in which it was. -/
def deposits (history : List Event) : List Transfer :=
  transfers Event.deposit? history

/-- All that was handed out, in the order in which it was. -/
def withdrawals (history : List Event) : List Transfer :=
  transfers Event.withdrawal? history

/-- All that one of the calls that close everything has done. -/
def exchanges (i : Nat) (history : List Event) : List HostExchange :=
  history.filterMap (Event.exchange? i)

/-- The last deposit under its name before a moment. -/
def Latest (history : List Event) (moment : Nat) (d : Transfer) : Prop :=
  d.moment < moment ∧
    ∀ e ∈ deposits history, e.name = d.name → e.moment < moment → e.moment ≤ d.moment

lemma transfers_concat :
    transfers kind (history ++ [event]) = transfers kind history ++
      ((kind event).map fun e => ⟨history.length, e.1, e.2⟩ : Option Transfer).toList := by
  rw [transfers, List.zipIdx_append, List.filterMap_append, ← transfers, Nat.zero_add]
  cases h : kind event <;> simp [h]

lemma transfers_of_none (h : kind event = none) :
    transfers kind (history ++ [event]) = transfers kind history := by
  rw [transfers_concat, h]
  exact List.append_nil _

lemma exchanges_concat :
    exchanges i (history ++ [event]) = exchanges i history ++ (event.exchange? i).toList := by
  rw [exchanges, List.filterMap_append, ← exchanges]
  cases h : event.exchange? i <;> simp [h]

lemma moment_lt (h : d ∈ transfers kind history) : d.moment < history.length := by
  obtain ⟨⟨event, moment⟩, mem, made⟩ := List.mem_filterMap.1 h
  obtain ⟨e, -, rfl⟩ := Option.map_eq_some_iff.1 made
  exact (List.mem_zipIdx' mem).1

lemma pairwise_moment : (transfers kind history).Pairwise fun d e => d.moment < e.moment := by
  induction history using List.reverseRecOn with
  | nil => exact .nil
  | append_singleton history event ih =>
    rw [transfers_concat, List.pairwise_append]
    refine ⟨ih, ?_, ?_⟩
    · cases kind event <;> simp
    · intro d hd e he
      obtain ⟨_, -, rfl⟩ := Option.map_eq_some_iff.1 (Option.mem_toList.1 he)
      exact moment_lt hd

lemma nodup_deposits (history : List Event) : (deposits history).Nodup := by
  refine List.Pairwise.imp ?_ pairwise_moment
  rintro d _ before rfl
  exact Nat.lt_irrefl _ before

lemma Latest.concat (h : Latest history m d) (hm : m ≤ history.length) :
    Latest (history ++ [event]) m d := by
  refine ⟨h.1, ?_⟩
  intro e he same before
  rw [deposits, transfers_concat] at he
  obtain he | he := List.mem_append.1 he
  · exact h.2 e he same before
  · obtain ⟨_, -, rfl⟩ := Option.map_eq_some_iff.1 (Option.mem_toList.1 he)
    exact absurd hm (Nat.not_le.2 before)

/-- A deposit is the last under its name until there is another. -/
lemma Latest.now (h : Latest history history.length d)
    (other : ∀ e ∈ event.deposit?, e.1 ≠ d.name) :
    Latest (history ++ [event]) (history ++ [event]).length d := by
  rw [List.length_append]
  refine ⟨Nat.lt_add_right _ h.1, ?_⟩
  intro e he same _
  rw [deposits, transfers_concat] at he
  obtain he | he := List.mem_append.1 he
  · exact h.2 e he same (moment_lt he)
  · obtain ⟨_, found, rfl⟩ := Option.map_eq_some_iff.1 (Option.mem_toList.1 he)
    exact absurd same (other _ found)

/-! ### Ledgers -/

/-- What one of the calls that close everything has taken: what it has closed, and what it still has
to close. -/
structure Taking where
  closed : List Transfer
  waiting : List Transfer

def Taking.all (t : Taking) : List Transfer :=
  t.closed ++ t.waiting

/-- Where everything is that was ever put in. What was handed out is listed with the transfer by
which it was. -/
structure Ledger where
  standing : List Transfer
  returned : List (Transfer × Transfer)
  takings : List Taking

def Ledger.all (l : Ledger) : List Transfer :=
  l.standing ++ l.returned.map (·.1) ++ l.takings.flatMap Taking.all

def Transfer.closing (d : Transfer) : HostExchange :=
  ⟨.resource (.close d.resource), ()⟩

/-- How far a call that closes everything has come: it has done nothing, or it has taken all that
stood at some moment, and has closed some of it. -/
inductive Progress (history : List Event) (i : Nat) : Taking → HostDialogue Unit → Prop
  | called (nothing : exchanges i history = []) : Progress history i ⟨[], []⟩ closeAll
  | drained {m : Nat} {closed waiting : List Transfer}
      (drain : history[m]? = some (.sweep i ⟨.drain, (closed ++ waiting).map (·.resource)⟩))
      (before : ∀ d ∈ closed ++ waiting, Latest history m d)
      (made : exchanges i history =
        ⟨.drain, (closed ++ waiting).map (·.resource)⟩ :: closed.map Transfer.closing) :
      Progress history i ⟨closed, waiting⟩ (closeEach (waiting.map (·.resource)))

/-- What was handed out is what was taken out of the registry, and was put in last before. -/
structure Returned (returned : List (Transfer × Transfer)) (history : List Event) : Prop where
  withdrawn : returned.map (·.2) = withdrawals history
  matched : ∀ x ∈ returned, x.1.entry = x.2.entry ∧ Latest history x.2.moment x.1

/-- Each of the calls that close everything is as far as it is said, and all that is closed was
closed by them. -/
structure Swept (takings : List Taking) (history : List Event) (w : Custody) : Prop where
  called : takings.length = w.sweeps.length
  progress : ∀ {i t d}, takings[i]? = some t → w.sweeps[i]? = some d → Progress history i t d
  uncalled : ∀ {i}, w.sweeps.length ≤ i → exchanges i history = []
  closed : (takings.flatMap Taking.closed).map (·.resource) |>.Perm w.closed

/-- The ledger accounts for all that was put in, and agrees with the registry, with what was handed
out and with what was closed. -/
structure Ledger.Balances (l : Ledger) (history : List Event) (w : Custody) : Prop where
  conserved : l.all.Perm (deposits history)
  listed : l.standing.map Transfer.entry = w.registry.entries
  latest : ∀ d ∈ l.standing, Latest history history.length d
  returned : Returned l.returned history
  swept : Swept l.takings history w

variable {w w' : Custody} {l : Ledger} {t : Taking} {k : HostDialogue Unit}

lemma Progress.concat (h : Progress history i t k) (other : event.exchange? i = none) :
    Progress (history ++ [event]) i t k := by
  have same : exchanges i (history ++ [event]) = exchanges i history := by
    rw [exchanges_concat, other, Option.toList_none, List.append_nil]
  cases h with
  | called nothing => exact .called (same.trans nothing)
  | drained drain before made =>
    have hm := (List.getElem?_eq_some_iff.1 drain).1
    refine .drained ?_ (fun d hd => (before d hd).concat (Nat.le_of_lt hm)) (same.trans made)
    rw [List.getElem?_append_left hm, drain]

/-- A call that closes everything takes all that stands, or closes the next of what it has taken. -/
lemma Progress.next {call : HostCall} {reply : call.Reply} {next : call.Reply → HostDialogue Unit}
    {h : Holdings} (progress : Progress history i t (.ask call next))
    (replies : Replies w.toHoldings ⟨call, reply⟩ h) :
    (t = ⟨[], []⟩ ∧ h = { w.toHoldings with registry := .empty } ∧
        ∀ {standing : List Transfer}, standing.map Transfer.entry = w.registry.entries →
          (∀ d ∈ standing, Latest history history.length d) →
          Progress (history ++ [.sweep i ⟨call, reply⟩]) i ⟨[], standing⟩ (next reply)) ∨
      ∃ closed d waiting, t = ⟨closed, d :: waiting⟩ ∧
        (⟨call, reply⟩ : HostExchange) = d.closing ∧
        h = { w.toHoldings with closed := d.resource :: w.closed } ∧
        Progress (history ++ [.sweep i ⟨call, reply⟩]) i ⟨closed ++ [d], waiting⟩ (next reply) := by
  have more (x : HostExchange) :
      exchanges i (history ++ [.sweep i x]) = exchanges i history ++ [x] :=
    exchanges_concat.trans (by rw [Event.exchange?, if_pos rfl]; rfl)
  generalize hk : Dialogue.ask call next = k at progress
  -- a sweep drains first, and then closes what it has drained, one by one
  cases progress with
  | called nothing =>
    cases hk
    cases replies
    refine .inl ⟨rfl, rfl, ?_⟩
    intro standing listed latest
    have resources : w.registry.drain.1 = standing.map (·.resource) := by
      rw [drain, ← listed, List.map_map]
      rfl
    rw [resources]
    refine @Progress.drained _ _ history.length [] standing List.getElem?_concat_length ?_ ?_
    · exact fun d hd => (latest d hd).concat (Nat.le_refl _)
    · rw [more, nothing]
      rfl
  | @drained m closed waiting drain before made =>
    cases waiting with
    | nil => cases hk
    | cons d waiting =>
      cases hk
      cases replies
      have hm := (List.getElem?_eq_some_iff.1 drain).1
      refine .inr ⟨closed, d, waiting, rfl, rfl, rfl, ?_⟩
      have all : closed ++ [d] ++ waiting = closed ++ d :: waiting := List.append_assoc _ _ _
      refine @Progress.drained _ _ m _ _ ?_ ?_ ?_
      · rw [List.getElem?_append_left hm, all, drain]
      · exact fun d hd => (before d (all ▸ hd)).concat (Nat.le_of_lt hm)
      · rw [more, made, all, @List.map_append _ _ Transfer.closing]
        rfl

/-! ### What a step moves -/

/-- An entry is put in its place among the others. -/
lemma exists_standing (d : Transfer) (l : List Transfer) :
    ∃ m : List Transfer, m.Perm (d :: l) ∧
      m.map Transfer.entry = insertEntry d.name d.resource (l.map Transfer.entry) := by
  have split := congrFun (congrFun (List.eq_map_comp_perm Transfer.entry)
    (insertEntry d.name d.resource (l.map Transfer.entry))) (d :: l)
  obtain ⟨m, entries, perm⟩ := split.mpr (perm_insertEntry d.name d.resource _)
  exact ⟨m, perm, entries.symm⟩

/-- A transfer among others with other names is taken out by its name. -/
lemma perm_cons_filter {l : List Transfer} (names : (l.map Transfer.name).Nodup) (h : d ∈ l) :
    l.Perm (d :: l.filter (·.name != d.name)) := by
  have same : l.filter (· != d) = l.filter (·.name != d.name) := by
    refine List.filter_congr ?_
    intro e he
    have apart : e.name = d.name ↔ e = d :=
      ⟨fun same => List.inj_on_of_nodup_map names he h same, congrArg _⟩
    rw [Bool.eq_iff_iff, bne_iff_ne, bne_iff_ne, ne_eq, ne_eq, apart]
  rw [← same, ← names.of_map.erase_eq_filter]
  exact List.perm_cons_erase h

/-- What is known of a member of a list changes with the member. -/
lemma perm_flatMap_set {l : List Taking} (h : l[i]? = some t) (f : Taking → List Transfer)
    (t' : Taking) : ((l.set i t').flatMap f ++ f t).Perm (l.flatMap f ++ f t') := by
  obtain ⟨hi, rfl⟩ := List.getElem?_eq_some_iff.1 h
  obtain ⟨before, after, split, -, changed⟩ : ∃ before after, l = before ++ l[i] :: after ∧
    before.length = i ∧ l.set i t' = before ++ t' :: after := List.exists_of_set hi
  rw [changed]
  generalize l[i] = t at split
  rw [split]
  refine List.perm_iff_count.2 fun d => ?_
  simp only [List.flatMap_append, List.flatMap_cons, List.count_append]
  omega

lemma Returned.concat {returned : List (Transfer × Transfer)} (h : Returned returned history)
    (noWithdrawal : event.withdrawal? = none) : Returned returned (history ++ [event]) where
  withdrawn := h.withdrawn.trans (transfers_of_none noWithdrawal).symm
  matched x hx := by
    have made : x.2 ∈ withdrawals history := h.withdrawn ▸ List.mem_map_of_mem hx
    exact ⟨(h.matched x hx).1, (h.matched x hx).2.concat (Nat.le_of_lt (moment_lt made))⟩

namespace Swept

variable {takings : List Taking} {registry : Registry ResourceId}

lemma exists_taking (h : Swept takings history w) (hk : w.sweeps[i]? = some k) :
    ∃ t, takings[i]? = some t :=
  ⟨_, List.getElem?_eq_getElem (h.called ▸ (List.getElem?_eq_some_iff.1 hk).1)⟩

/-- The calls that close everything are where they were as long as none of them takes a turn. -/
lemma concat (h : Swept takings history w) (noExchange : ∀ i, event.exchange? i = none) :
    Swept takings (history ++ [event]) { w with registry := registry } where
  called := h.called
  progress ht hk := (h.progress ht hk).concat (noExchange _)
  uncalled hi := by
    rw [exchanges_concat, noExchange, h.uncalled hi]
    rfl
  closed := h.closed

/-- A call that closes everything has taken nothing at first. -/
lemma call (h : Swept takings history w) :
    Swept (takings ++ [⟨[], []⟩]) (history ++ [.closeAll])
      { w with sweeps := w.sweeps ++ [NestedTx.closeAll] } where
  called := by rw [List.length_append, List.length_append, h.called]; rfl
  progress {i t k} ht hk := by
    obtain hi | hi := Nat.lt_or_ge i w.sweeps.length
    · rw [List.getElem?_append_left hi] at hk
      rw [List.getElem?_append_left (h.called ▸ hi)] at ht
      exact (h.progress ht hk).concat rfl
    · rw [List.getElem?_append_right hi] at hk
      rw [List.getElem?_append_right (h.called ▸ hi)] at ht
      obtain rfl := List.mem_singleton.1 (List.mem_of_getElem? hk)
      obtain rfl := List.mem_singleton.1 (List.mem_of_getElem? ht)
      exact .called (exchanges_concat.trans (by rw [h.uncalled hi]; rfl))
  uncalled {i} hi := by
    rw [List.length_append] at hi
    exact exchanges_concat.trans (by rw [h.uncalled (Nat.le_of_succ_le hi)]; rfl)
  closed := by
    rw [List.flatMap_append]
    exact (List.append_nil (takings.flatMap Taking.closed)).symm ▸ h.closed

/-- A turn of one of the calls that close everything leaves the others where they were. -/
lemma turn (h : Swept takings history w) {x : HostExchange} {t' : Taking} {k' : HostDialogue Unit}
    {held : Holdings} (among : i < w.sweeps.length)
    (new : Progress (history ++ [.sweep i x]) i t' k')
    (closed : ((takings.set i t').flatMap Taking.closed).map (·.resource) |>.Perm held.closed) :
    Swept (takings.set i t') (history ++ [.sweep i x])
      { w with toHoldings := held, sweeps := w.sweeps.set i k' } where
  called := by rw [List.length_set, List.length_set, h.called]
  progress {j t k} ht hk := by
    obtain rfl | other := eq_or_ne i j
    · rw [List.getElem?_set_self'] at ht hk
      obtain ⟨_, -, rfl⟩ := Option.map_eq_some_iff.1 ht
      obtain ⟨_, -, rfl⟩ := Option.map_eq_some_iff.1 hk
      exact new
    · rw [List.getElem?_set_ne other] at ht hk
      exact (h.progress ht hk).concat (if_neg other)
  uncalled {j} hj := by
    rw [List.length_set] at hj
    have other : i ≠ j := Nat.ne_of_lt (Nat.lt_of_lt_of_le among hj)
    rw [exchanges_concat, h.uncalled hj, Event.exchange?, if_neg other]
    rfl
  closed := closed

end Swept

namespace Ledger.Balances

variable (h : l.Balances history w)

include h

lemma names_nodup : (l.standing.map Transfer.name).Nodup := by
  have ordered := w.registry.ordered
  rw [← h.listed, List.pairwise_map] at ordered
  refine List.pairwise_map.2 (ordered.imp ?_)
  intro d e before same
  change d.name < e.name at before
  rw [same] at before
  exact Std.lt_irrefl before

lemma latest_concat (noDeposit : event.deposit? = none) :
    ∀ d ∈ l.standing, Latest (history ++ [event]) (history ++ [event]).length d :=
  fun d hd => (h.latest d hd).now (by simp [noDeposit])

/-- A ledger stays as it is if nothing is transferred. -/
lemma idle (noDeposit : event.deposit? = none) (noWithdrawal : event.withdrawal? = none)
    (noExchange : ∀ i, event.exchange? i = none) : l.Balances (history ++ [event]) w where
  conserved := h.conserved.trans (.of_eq (transfers_of_none noDeposit).symm)
  listed := h.listed
  latest := h.latest_concat noDeposit
  returned := h.returned.concat noWithdrawal
  swept := h.swept.concat noExchange

/-- A resource that is put in stands. -/
lemma deposited {name : String} (r : ResourceId) (free : w.registry.contains name = false) :
    ∃ l' : Ledger, l'.Balances (history ++ [.register name r (.ok ())])
      { w with registry := (w.registry.claim name r).2 } := by
  let d : Transfer := ⟨history.length, name, r⟩
  -- the entry goes where its name belongs, so the order is that of the names
  obtain ⟨standing, perm, entries⟩ := exists_standing d l.standing
  refine ⟨⟨standing, l.returned, l.takings⟩, ?_⟩
  constructor
  case conserved =>
    have one : deposits (history ++ [.register name r (.ok ())]) = deposits history ++ [d] :=
      transfers_concat
    rw [one]
    -- conservation is counted: one deposit more, and one standing entry more
    refine List.perm_iff_count.2 fun e => ?_
    have before := h.conserved.count_eq e
    have moved := perm.count_eq e
    simp only [Ledger.all, List.count_append, List.count_cons, List.count_nil] at before moved ⊢
    omega
  case listed =>
    rw [entries_claim free, ← h.listed]
    exact entries
  case latest =>
    intro e he
    obtain rfl | he := List.mem_cons.1 (perm.mem_iff.1 he)
    · refine ⟨by simp [d], ?_⟩
      intro e he _ before
      rw [List.length_append] at before
      exact Nat.le_of_lt_succ before
    · refine (h.latest e he).now ?_
      rintro _ ⟨⟩ same
      exact ne_of_not_contains free e.entry (h.listed ▸ List.mem_map_of_mem he) same.symm
  case returned => exact h.returned.concat rfl
  case swept => exact h.swept.concat fun _ => rfl

/-- A resource that is taken out is handed out by that call. -/
lemma handedOut {name : String} {r : ResourceId} (found : w.registry.get? name = some r) :
    ∃ l' : Ledger, l'.Balances (history ++ [.unregister name (.ok r)])
      { w with registry := (w.registry.unregister name).2 } := by
  obtain ⟨d, hd, entry⟩ : ∃ d ∈ l.standing, d.entry = (name, r) :=
    List.mem_map.1 (h.listed ▸ get?_eq_some_iff.1 found)
  obtain ⟨rfl, rfl⟩ := Prod.mk.inj entry
  let out : Transfer := ⟨history.length, d.name, d.resource⟩
  refine ⟨⟨l.standing.filter (·.name != d.name), l.returned ++ [(d, out)], l.takings⟩, ?_⟩
  constructor
  case conserved =>
    have none : deposits (history ++ [.unregister d.name (.ok d.resource)]) = deposits history :=
      transfers_of_none rfl
    rw [none]
    -- what leaves the standing entries is what is handed out
    refine List.perm_iff_count.2 fun e => ?_
    have before := h.conserved.count_eq e
    have moved := (perm_cons_filter h.names_nodup hd).count_eq e
    simp only [Ledger.all, List.count_append, List.count_cons, List.count_nil, List.map_append,
      List.map_cons, List.map_nil] at before moved ⊢
    omega
  case listed =>
    rw [Registry.unregister, found]
    change _ = w.registry.entries.filter _
    rw [← h.listed, List.filter_map]
    rfl
  case latest =>
    intro e he
    exact h.latest_concat rfl e (List.mem_filter.1 he).1
  case returned =>
    constructor
    · rw [withdrawals, transfers_concat, List.map_append]
      exact congrArg (· ++ [out]) h.returned.withdrawn
    · intro x hx
      obtain hx | hx := List.mem_append.1 hx
      · have made : x.2 ∈ withdrawals history :=
          h.returned.withdrawn ▸ List.mem_map_of_mem hx
        exact ⟨(h.returned.matched x hx).1,
          (h.returned.matched x hx).2.concat (Nat.le_of_lt (moment_lt made))⟩
      · cases List.mem_singleton.1 hx
        exact ⟨rfl, (h.latest d hd).concat (Nat.le_refl _)⟩
  case swept => exact h.swept.concat fun _ => rfl

/-- A call that closes everything has taken nothing at first. -/
lemma called :
    ∃ l' : Ledger, l'.Balances (history ++ [.closeAll])
      { w with sweeps := w.sweeps ++ [NestedTx.closeAll] } := by
  refine ⟨⟨l.standing, l.returned, l.takings ++ [⟨[], []⟩]⟩, ?_⟩
  constructor
  case conserved =>
    rw [Ledger.all, List.flatMap_append, deposits, transfers_of_none rfl]
    exact (List.append_nil (l.takings.flatMap Taking.all)).symm ▸ h.conserved
  case listed => exact h.listed
  case latest => exact h.latest_concat rfl
  case returned => exact h.returned.concat rfl
  case swept => exact h.swept.call

/-- A call that closes everything takes all that stands. -/
lemma taken {x : HostExchange} (ht : l.takings[i]? = some ⟨[], []⟩)
    (new : Progress (history ++ [.sweep i x]) i ⟨[], l.standing⟩ k) :
    ∃ l' : Ledger, l'.Balances (history ++ [.sweep i x])
      { w with registry := .empty, sweeps := w.sweeps.set i k } := by
  have among : i < w.sweeps.length := h.swept.called ▸ (List.getElem?_eq_some_iff.1 ht).1
  refine ⟨⟨[], l.returned, l.takings.set i ⟨[], l.standing⟩⟩, ?_⟩
  constructor
  case conserved =>
    rw [deposits, transfers_of_none rfl]
    refine List.perm_iff_count.2 fun e => ?_
    have before := h.conserved.count_eq e
    have moved := (perm_flatMap_set ht Taking.all ⟨[], l.standing⟩).count_eq e
    simp only [Ledger.all, Taking.all, List.count_append, List.count_nil, List.nil_append,
      deposits] at before moved ⊢
    omega
  case listed => rfl
  case latest => exact List.forall_mem_nil _
  case returned => exact h.returned.concat rfl
  case swept =>
    have same := perm_flatMap_set ht Taking.closed ⟨[], l.standing⟩
    rw [List.append_nil, List.append_nil] at same
    exact h.swept.turn among new ((same.map _).trans h.swept.closed)

/-- A call that closes everything closes what it has taken. -/
lemma closing {x : HostExchange} {closed waiting : List Transfer}
    (ht : l.takings[i]? = some ⟨closed, d :: waiting⟩)
    (new : Progress (history ++ [.sweep i x]) i ⟨closed ++ [d], waiting⟩ k) :
    ∃ l' : Ledger, l'.Balances (history ++ [.sweep i x])
      { w with closed := d.resource :: w.closed, sweeps := w.sweeps.set i k } := by
  have among : i < w.sweeps.length := h.swept.called ▸ (List.getElem?_eq_some_iff.1 ht).1
  let t' : Taking := ⟨closed ++ [d], waiting⟩
  refine ⟨⟨l.standing, l.returned, l.takings.set i t'⟩, ?_⟩
  constructor
  case conserved =>
    rw [deposits, transfers_of_none rfl]
    -- within its taking, one transfer moves from the waiting to the closed ones
    refine List.perm_iff_count.2 fun e => ?_
    have before := h.conserved.count_eq e
    have moved := (perm_flatMap_set ht Taking.all t').count_eq e
    simp only [t', Ledger.all, Taking.all, List.count_append, List.count_cons, List.count_nil,
      deposits] at before moved ⊢
    omega
  case listed => exact h.listed
  case latest => exact h.latest_concat rfl
  case returned => exact h.returned.concat rfl
  case swept =>
    have one : ((l.takings.set i t').flatMap Taking.closed).Perm
        (d :: l.takings.flatMap Taking.closed) := by
      refine List.perm_iff_count.2 fun e => ?_
      have moved := (perm_flatMap_set ht Taking.closed t').count_eq e
      simp only [t', List.count_append, List.count_cons, List.count_nil] at moved ⊢
      omega
    exact h.swept.turn among new ((one.map _).trans (h.swept.closed.cons d.resource))

lemma step (step : w.Step event w') : ∃ l' : Ledger, l'.Balances (history ++ [event]) w' := by
  cases step with
  | register name r =>
    rw [register_eq]
    cases taken : w.registry.contains name with
    | true =>
      rw [claim_of_contains taken]
      exact ⟨l, h.idle rfl rfl fun _ => rfl⟩
    | false => exact h.deposited r taken
  | unregister name =>
    cases found : w.registry.get? name with
    | none =>
      rw [Registry.unregister, found]
      exact ⟨l, h.idle rfl rfl fun _ => rfl⟩
    | some r =>
      have result : (w.registry.unregister name).1 = .ok r := by rw [Registry.unregister, found]
      rw [result]
      exact h.handedOut found
  | closeAll => exact h.called
  | @sweep i call reply next h' among replies =>
    obtain ⟨t, ht⟩ := h.swept.exists_taking among
    -- the sweep takes all that stands, or closes the next of what it took
    obtain ⟨rfl, rfl, new⟩ | ⟨closed, d, waiting, rfl, -, rfl, new⟩ :=
      (h.swept.progress ht among).next replies
    · exact h.taken ht (new h.listed h.latest)
    · exact h.closing ht new
  | _ => exact ⟨l, h.idle rfl rfl fun _ => rfl⟩

end Ledger.Balances

lemma Custody.Run.balances (run : Custody.Run history w) : ∃ l : Ledger, l.Balances history w := by
  induction run with
  | start =>
    refine ⟨⟨[], [], []⟩, .refl _, rfl, List.forall_mem_nil _, ⟨rfl, List.forall_mem_nil _⟩, ?_⟩
    exact ⟨rfl, fun ht => (by cases ht), fun _ => rfl, .refl _⟩
  | step _ step ih =>
    obtain ⟨l, h⟩ := ih
    exact h.step step

end NestedTx.Registry
