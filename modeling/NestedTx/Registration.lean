import NestedTx.Host

/-!
# Registering databases

A database is registered by connecting to it. The name is looked at before anything is opened, and
again, together with taking it, once the pool stands: if somebody else has taken it meanwhile, the
new pool is closed.
-/

namespace NestedTx

/-- What is known of a database that was registered. -/
structure ConnectionInfo where
  name : String
  kind : DatabaseKind
  serverVersion : Option String
  deriving Repr, DecidableEq

/-- Connects to a database and registers it under its id. -/
def registerDatabase (config : ConnectionConfig) : HostDialogue (DbResult ConnectionInfo) := do
  if ← (HostCall.contains config.id).send then
    return .error (.nameConflict config.id)
  else
    match ← (HostCall.connect config).send with
    | .error e => return .error e
    | .ok r => do
      let version ← (HostCall.version r).send
      if ← (HostCall.claim config.id r).send then
        return .ok ⟨config.id, config.kind, version⟩
      else do
        (HostCall.resource (.close r)).send
        return .error (.nameConflict config.id)

/-- Closes resources one after the other. -/
def closeEach : List ResourceId → HostDialogue Unit
  | [] => return ()
  | r :: rest => do
    (HostCall.resource (.close r)).send
    closeEach rest

/-- Empties the registry and closes what was in it. -/
def closeAll : HostDialogue Unit := do
  closeEach (← HostCall.drain.send)

end NestedTx
