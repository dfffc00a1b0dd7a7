import NestedTx.Registration
import NestedTx.Proofs.Dialogue
import NestedTx.Proofs.Registry

/-!
# Registrations side by side

Any number of registrations share one registry with direct changes of it and with calls that close
everything. Each exchange of a call with its host is one step, and the steps of all calls come in
any order. A new connection has a pool of its own, and as long as a registration has not put its
pool into the registry, nobody else can have it.
-/

namespace NestedTx

open Dialogue

abbrev HostExchange : Type :=
  Exchange HostCall HostCall.Reply

namespace Registration

/-! ### What is shared -/

/-- The registry, the pools that there have been, and those of them that were closed. -/
structure Holdings where
  registry : Registry ResourceId
  known : List ResourceId
  closed : List ResourceId

/-- The replies of the host, with the holdings before and after. A connection gives a new pool. -/
inductive Replies (h : Holdings) : HostExchange → Holdings → Prop
  | contains (name : String) : Replies h ⟨.contains name, h.registry.contains name⟩ h
  | claim (name : String) (r : ResourceId) :
      Replies h ⟨.claim name r, (h.registry.claim name r).1⟩
        { h with registry := (h.registry.claim name r).2 }
  | connected (config : ConnectionConfig) {r : ResourceId} (fresh : r ∉ h.known) :
      Replies h ⟨.connect config, .ok r⟩ { h with known := r :: h.known }
  | notConnected (config : ConnectionConfig) (e : DbError) :
      Replies h ⟨.connect config, .error e⟩ h
  | version (r : ResourceId) (v : Option String) : Replies h ⟨.version r, v⟩ h
  | closed (r : ResourceId) :
      Replies h ⟨.resource (.close r), ()⟩ { h with closed := r :: h.closed }
  | drained :
      Replies h ⟨.drain, h.registry.drain.1⟩ { h with registry := h.registry.drain.2 }

lemma Replies.fresh {h h' : Holdings} {config : ConnectionConfig} {r : ResourceId}
    (replies : Replies h ⟨.connect config, .ok r⟩ h') : r ∉ h.known ∧ r ∈ h'.known := by
  cases replies with
  | connected _ fresh => exact ⟨fresh, List.mem_cons_self⟩

lemma Replies.beaten {h h' : Holdings} {name : String} {r : ResourceId}
    (replies : Replies h ⟨.claim name r, false⟩ h') : h.registry.contains name = true := by
  generalize hx : (⟨.claim name r, false⟩ : HostExchange) = x at replies
  cases replies with
  | claim =>
    obtain ⟨call, reply⟩ := Sigma.mk.inj hx
    cases call
    rw [← Bool.not_eq_false]
    intro free
    rw [(Registry.claim_of_free free r).1] at reply
    cases reply
  | _ => cases hx

/-! ### Registrations and the world -/

/-- A registration in progress or returned: the exchanges it has made, and what is left of it. -/
structure Attempt where
  config : ConnectionConfig
  made : List HostExchange
  rest : HostDialogue (DbResult ConnectionInfo)

namespace Attempt

/-- What the registration has returned. -/
def result? (a : Attempt) : Option (DbResult ConnectionInfo) :=
  match a.rest with
  | .answer result => some result
  | .ask _ _ => none

def Connected (a : Attempt) (r : ResourceId) : Prop :=
  ⟨.connect a.config, .ok r⟩ ∈ a.made

def Inserted (a : Attempt) (r : ResourceId) : Prop :=
  ⟨.claim a.config.id r, true⟩ ∈ a.made

/-- The registration has returned that a name is registered now. -/
def wins (name : String) (a : Attempt) : Bool :=
  a.config.id == name && a.result?.any Except.isOk

end Attempt

/-- What is shared, the registrations, the calls that close everything, and the direct
registrations with what they returned. -/
structure World extends Holdings where
  attempts : List Attempt
  sweeps : List (HostDialogue Unit)
  registered : List (String × DbResult Unit)

namespace World

/-- The pool belongs to a registration that has not put it into the registry. -/
def Private (w : World) (r : ResourceId) : Prop :=
  ∃ a ∈ w.attempts, a.Connected r ∧ ¬ a.Inserted r

inductive Action where
  | start (config : ConnectionConfig)
  | attempt (i : Nat) (call : HostCall)
  | sweep
  | sweeping (i : Nat) (call : HostCall)
  | register (name : String) (r : ResourceId)
  | unregister (name : String)
  | lookup (name : String)

inductive Step (w : World) : Action → World → Prop
  | start (config : ConnectionConfig) :
      Step w (.start config)
        { w with attempts := w.attempts ++ [⟨config, [], registerDatabase config⟩] }
  | attempt {i : Nat} {a : Attempt} {call : HostCall} {reply : call.Reply}
      {next : call.Reply → HostDialogue (DbResult ConnectionInfo)} {h : Holdings}
      (among : w.attempts[i]? = some a) (ask : a.rest = .ask call next)
      (replies : Replies w.toHoldings ⟨call, reply⟩ h) :
      Step w (.attempt i call)
        { w with
          toHoldings := h
          attempts := w.attempts.set i ⟨a.config, a.made ++ [⟨call, reply⟩], next reply⟩ }
  | sweep : Step w .sweep { w with sweeps := w.sweeps ++ [closeAll] }
  | sweeping {i : Nat} {call : HostCall} {reply : call.Reply}
      {next : call.Reply → HostDialogue Unit} {h : Holdings}
      (among : w.sweeps[i]? = some (.ask call next))
      (replies : Replies w.toHoldings ⟨call, reply⟩ h) :
      Step w (.sweeping i call)
        { w with toHoldings := h, sweeps := w.sweeps.set i (next reply) }
  | register (name : String) {r : ResourceId} (notPrivate : ¬ w.Private r) :
      Step w (.register name r)
        { w with
          registry := (w.registry.register name r).2
          known := r :: w.known
          registered := w.registered ++ [(name, (w.registry.register name r).1)] }
  | unregister (name : String) :
      Step w (.unregister name) { w with registry := (w.registry.unregister name).2 }
  | lookup (name : String) : Step w (.lookup name) w

/-- A world with a registry in which nothing is going on. -/
def initial (g : Registry ResourceId) : World :=
  ⟨⟨g, g.entries.map (·.2), []⟩, [], [], []⟩

/-- The worlds that can come of an initial one, with all worlds before. -/
inductive Run (g : Registry ResourceId) : List World → World → Prop
  | start : Run g [] (initial g)
  | step {past : List World} {w w' : World} {action : Action} (run : Run g past w)
      (step : Step w action w') : Run g (past ++ [w]) w'

/-- The calls that have returned that a name is registered now. -/
def winners (w : World) (name : String) : Nat :=
  w.attempts.countP (·.wins name) + w.registered.countP fun e => e.1 == name && e.2.isOk

/-- A name is never removed: once it is taken, it stays taken. -/
def Permanent (name : String) (worlds : List World) : Prop :=
  worlds.Pairwise fun v v' => v.registry.contains name = true → v'.registry.contains name = true

def Returns (w w' : World) (i : Nat) (a : Attempt) (result : DbResult ConnectionInfo) : Prop :=
  (∃ a₀, w.attempts[i]? = some a₀ ∧ a₀.result? = none) ∧
    w'.attempts[i]? = some a ∧ a.result? = some result

end World

/-! ### Stages of a registration

The dialogue of a registration is a chain: it looks at the name, connects, asks for the version, and
claims the name or gives up. Each stage fixes the exchanges that lead to it and what is left then.
-/

inductive Stage where
  | checking
  | refused
  | connecting
  | failed (e : DbError)
  | probing (r : ResourceId)
  | claiming (r : ResourceId) (version : Option String)
  | inserted (r : ResourceId) (version : Option String)
  | losing (r : ResourceId) (version : Option String)
  | lost (r : ResourceId) (version : Option String)

namespace Stage

variable (config : ConnectionConfig)

/-- The exchanges that lead to a stage. -/
def made : Stage → List HostExchange
  | checking => []
  | refused => [⟨.contains config.id, true⟩]
  | connecting => [⟨.contains config.id, false⟩]
  | failed e => [⟨.contains config.id, false⟩, ⟨.connect config, .error e⟩]
  | probing r => [⟨.contains config.id, false⟩, ⟨.connect config, .ok r⟩]
  | claiming r v => [⟨.contains config.id, false⟩, ⟨.connect config, .ok r⟩, ⟨.version r, v⟩]
  | inserted r v =>
    [⟨.contains config.id, false⟩, ⟨.connect config, .ok r⟩, ⟨.version r, v⟩,
      ⟨.claim config.id r, true⟩]
  | losing r v =>
    [⟨.contains config.id, false⟩, ⟨.connect config, .ok r⟩, ⟨.version r, v⟩,
      ⟨.claim config.id r, false⟩]
  | lost r v =>
    [⟨.contains config.id, false⟩, ⟨.connect config, .ok r⟩, ⟨.version r, v⟩,
      ⟨.claim config.id r, false⟩, ⟨.resource (.close r), ()⟩]

def giveUp (r : ResourceId) : HostDialogue (DbResult ConnectionInfo) :=
  .ask (.resource (.close r)) fun _ => .answer (.error (.nameConflict config.id))

def settle (r : ResourceId) (v : Option String) : HostDialogue (DbResult ConnectionInfo) :=
  .ask (.claim config.id r) fun granted =>
    if granted then .answer (.ok ⟨config.id, config.kind, v⟩) else giveUp config r

def probe (r : ResourceId) : HostDialogue (DbResult ConnectionInfo) :=
  .ask (.version r) fun v => settle config r v

def connect : HostDialogue (DbResult ConnectionInfo) :=
  .ask (.connect config) fun
    | .error e => .answer (.error e)
    | .ok r => probe config r

/-- What is left of a registration at a stage. -/
def rest : Stage → HostDialogue (DbResult ConnectionInfo)
  | checking => registerDatabase config
  | refused => .answer (.error (.nameConflict config.id))
  | connecting => connect config
  | failed e => .answer (.error e)
  | probing r => probe config r
  | claiming r v => settle config r v
  | inserted _ v => .answer (.ok ⟨config.id, config.kind, v⟩)
  | losing r _ => giveUp config r
  | lost _ _ => .answer (.error (.nameConflict config.id))

lemma registerDatabase_eq :
    registerDatabase config = .ask (.contains config.id) fun taken =>
      if taken then .answer (.error (.nameConflict config.id)) else connect config := by
  rw [registerDatabase]
  refine congrArg (Dialogue.ask (HostCall.contains config.id)) (funext ?_)
  intro taken
  cases taken with
  | true => rfl
  | false =>
    refine congrArg (Dialogue.ask (HostCall.connect config)) (funext ?_)
    intro reply
    cases reply with
    | error e => rfl
    | ok r =>
      refine congrArg (Dialogue.ask (HostCall.version r)) (funext ?_)
      intro v
      refine congrArg (Dialogue.ask (HostCall.claim config.id r)) (funext ?_)
      intro granted
      cases granted with
      | true => rfl
      | false => rfl

/-- The next stage of a registration, and what is shared then. -/
inductive Next (h : Holdings) : Stage → Stage → Holdings → Prop
  | taken (taken : h.registry.contains config.id = true) : Next h checking refused h
  | free (free : h.registry.contains config.id = false) : Next h checking connecting h
  | notConnected (e : DbError) : Next h connecting (failed e) h
  | connected {r : ResourceId} (fresh : r ∉ h.known) :
      Next h connecting (probing r) { h with known := r :: h.known }
  | version (r : ResourceId) (v : Option String) : Next h (probing r) (claiming r v) h
  | won (r : ResourceId) (v : Option String) (free : h.registry.contains config.id = false) :
      Next h (claiming r v) (inserted r v)
        { h with registry := (h.registry.claim config.id r).2 }
  | beaten (r : ResourceId) (v : Option String) (taken : h.registry.contains config.id = true) :
      Next h (claiming r v) (losing r v) h
  | closed (r : ResourceId) (v : Option String) :
      Next h (losing r v) (lost r v) { h with closed := r :: h.closed }

variable {config}

lemma next {h h' : Holdings} {s : Stage} {call : HostCall} {reply : call.Reply}
    {k : call.Reply → HostDialogue (DbResult ConnectionInfo)} (ask : rest config s = .ask call k)
    (replies : Replies h ⟨call, reply⟩ h') :
    ∃ s', made config s' = made config s ++ [⟨call, reply⟩] ∧ rest config s' = k reply ∧
      Next config h s s' h' := by
  -- each stage asks one thing; those that have returned ask nothing
  cases s with
  | checking =>
    change registerDatabase config = _ at ask
    rw [registerDatabase_eq] at ask
    cases ask
    cases replies
    cases taken : h.registry.contains config.id with
    | true => exact ⟨refused, rfl, rfl, .taken taken⟩
    | false => exact ⟨connecting, rfl, rfl, .free taken⟩
  | connecting =>
    cases ask
    cases replies with
    | connected _ fresh => exact ⟨probing _, rfl, rfl, .connected fresh⟩
    | notConnected _ e => exact ⟨failed e, rfl, rfl, .notConnected e⟩
  | probing r =>
    cases ask
    cases replies
    exact ⟨claiming r reply, rfl, rfl, .version r reply⟩
  | claiming r v =>
    cases ask
    cases replies
    cases taken : h.registry.contains config.id with
    | true =>
      rw [Registry.claim_of_contains taken]
      exact ⟨losing r v, rfl, rfl, .beaten r v taken⟩
    | false =>
      rw [(Registry.claim_of_free taken r).1]
      exact ⟨inserted r v, rfl, rfl, .won r v taken⟩
  | losing r v =>
    cases ask
    cases replies
    exact ⟨lost r v, rfl, rfl, .closed r v⟩
  | refused => cases ask
  | failed e => cases ask
  | inserted r v => cases ask
  | lost r v => cases ask

/-- What a registration has returned at a stage. -/
def result? (config : ConnectionConfig) : Stage → Option (DbResult ConnectionInfo)
  | refused | lost _ _ => some (.error (.nameConflict config.id))
  | failed e => some (.error e)
  | inserted _ v => some (.ok ⟨config.id, config.kind, v⟩)
  | _ => none

/-- The pool that a registration has connected at a stage. -/
def pool? : Stage → Option ResourceId
  | probing r | claiming r _ | inserted r _ | losing r _ | lost r _ => some r
  | _ => none

end Stage

namespace Attempt

/-- The registration has come to a stage. -/
def At (a : Attempt) (s : Stage) : Prop :=
  a.made = s.made a.config ∧ a.rest = s.rest a.config

variable {a : Attempt} {s : Stage} {r : ResourceId}

lemma At.result? (h : a.At s) : a.result? = s.result? a.config := by
  rw [Attempt.result?, h.2]
  cases s with
  | checking =>
    rw [Stage.rest, Stage.registerDatabase_eq]
    rfl
  | _ => rfl

lemma At.connected_iff (h : a.At s) : a.Connected r ↔ s.pool? = some r := by
  rw [Connected, h.1]
  cases s <;> simp [Stage.made, Stage.pool?, eq_comm]

lemma At.inserted_iff (h : a.At s) : a.Inserted r ↔ ∃ v, s = .inserted r v := by
  rw [Inserted, h.1]
  cases s <;> simp [Stage.made, eq_comm]

/-- A registration that has connected wins its name or is beaten to it, or goes on. -/
lemma At.won_or_beaten (h : a.At s) (connected : a.Connected r) (returned : a.result?.isSome) :
    a.wins a.config.id = true ∨ ⟨.claim a.config.id r, false⟩ ∈ a.made := by
  have pool := h.connected_iff.1 connected
  rw [wins, h.1, h.result?]
  rw [h.result?] at returned
  cases s with
  | inserted => exact .inl (by simp [Stage.result?, Except.isOk, Except.toBool])
  | lost =>
    cases pool
    exact .inr (by simp [Stage.made])
  | refused | failed => cases pool
  | _ => cases returned

/-- A registration that found its name taken has made no other exchange. -/
lemma At.of_taken (h : a.At s) (taken : ⟨.contains a.config.id, true⟩ ∈ a.made) :
    a.made = [⟨.contains a.config.id, true⟩] ∧
      a.result? = some (.error (.nameConflict a.config.id)) := by
  obtain rfl : s = .refused := by
    rw [h.1] at taken
    cases s <;> simp_all [Stage.made]
  exact ⟨h.1, h.result?⟩

/-- A registration that could not connect has claimed nothing. -/
lemma At.of_notConnected (h : a.At s) {e : DbError}
    (failed : ⟨.connect a.config, .error e⟩ ∈ a.made) :
    (∀ name r granted, ⟨.claim name r, granted⟩ ∉ a.made) ∧ a.result? = some (.error e) := by
  obtain rfl : s = .failed e := by
    rw [h.1] at failed
    cases s <;> simp_all [Stage.made]
  refine ⟨?_, h.result?⟩
  intro name r granted claimed
  rw [h.1] at claimed
  simp [Stage.made] at claimed

end Attempt

end Registration

end NestedTx
