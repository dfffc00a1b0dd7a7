import NestedTx.Error.Driver
import NestedTx.Transaction

/-!
# Connection pools

A pool counts its connections and keeps the idle ones in a queue: the one that has been idle
longest is handed out first. When all connections are in use nobody gives one back meanwhile, so
waiting for one is in vain.
-/

namespace NestedTx

/-- A pool: the most connections it may have, whether it is closed, the idle connections with the
oldest first, and how many connections there are, idle or in use. -/
structure Pool where
  max : Nat
  isClosed : Bool
  idle : List ConnectionId
  size : Nat
  deriving Repr, DecidableEq, Inhabited

namespace Pool

/-- A pool without connections. -/
def new (max : Nat) : Pool := ⟨max, false, [], 0⟩

/-- How a pool meets the wish for a connection: by one that is idle, by leave to open one more, or
not at all. -/
inductive Offer where
  | idle (c : ConnectionId) (p : Pool)
  | room
  | refusal (e : DriverError)

/-- Meets the wish for a connection. -/
def acquire (p : Pool) : Offer :=
  if p.isClosed then .refusal .poolClosed
  else
    match p.idle with
    | c :: rest => .idle c { p with idle := rest }
    | [] => if p.size < p.max then .room else .refusal .poolTimedOut

/-- The pool with one more connection, which is in use. -/
def opened (p : Pool) : Pool :=
  { p with size := p.size + 1 }

/-- The pool after a connection in use comes back. A closed pool keeps none. -/
def released (p : Pool) (c : ConnectionId) : Pool :=
  if p.isClosed then { p with size := p.size - 1 } else { p with idle := p.idle ++ [c] }

/-- The pool after a connection in use is closed. -/
def dropped (p : Pool) : Pool :=
  { p with size := p.size - 1 }

/-- The pool after it is closed, without its idle connections. -/
def close (p : Pool) : Pool :=
  { p with isClosed := true, idle := [], size := p.size - p.idle.length }

end Pool

end NestedTx
