import NestedTx.Resource
import NestedTx.Database.Connection

/-!
# The host of a program

Besides its resources a program has a registry that it shares with others, can connect to further
databases, knows the time and can make up ids. Each call on the registry is one step that nothing
comes between; between two calls others may change the registry.
-/

namespace NestedTx

/-- What can be asked of the host. -/
inductive HostCall where
  | resource (call : Call)
  | connect (config : ConnectionConfig)
  | version (r : ResourceId)
  | contains (name : String)
  | claim (name : String) (r : ResourceId)
  | lookup (name : String)
  | drain
  | clock
  | freshId
  deriving Repr, DecidableEq

/-- The type of the reply to a call of the host. The version of a server is not always known. A
claim says whether the name was free; the clock shows milliseconds. -/
@[reducible] def HostCall.Reply : HostCall → Type
  | resource call => call.Reply
  | connect _ => DbResult ResourceId
  | version _ => Option String
  | contains _ => Bool
  | claim _ _ => Bool
  | lookup _ => DbResult ResourceId
  | drain => List ResourceId
  | clock => Nat
  | freshId => String

/-- Dialogues with the host. -/
abbrev HostDialogue : Type → Type :=
  Dialogue HostCall HostCall.Reply

/-- Makes one call. -/
def HostCall.send (call : HostCall) : HostDialogue call.Reply :=
  Dialogue.request call

/-- A dialogue with resources, held with the host. -/
def ResourceDialogue.onHost {α : Type} (d : ResourceDialogue α) : HostDialogue α :=
  Dialogue.runWith (fun call => (HostCall.resource call).send) d

end NestedTx
