/-!
# Errors

What can go wrong with a database, a transaction or an argument. An error of a transaction step
keeps the error of the database that caused it, and hands on its suggestion and whether a retry
may help.
-/

namespace NestedTx

/-- What went wrong. The four errors of transaction steps carry the error that caused them. -/
inductive DbError where
  | noActiveTransaction
  | nameConflict (name : String)
  | nameNotFound (name : String)
  | beginFailed (cause : DbError)
  | savepointFailed (savepoint : String) (cause : DbError)
  | commitFailed (cause : DbError)
  | rollbackFailed (savepoint : Option String) (cause : DbError)
  | connection (text suggestion : String)
  | database (text : String) (sqlState : Option String) (suggestion : String)
  | timeout (operation : String) (seconds : Nat)
  | invalidInput (text : String)
  | internal (text : String)
  deriving Repr, DecidableEq, Inhabited

namespace DbError

/-- What the message of an error begins with, in front of the message of its cause. -/
def opening : DbError → String
  | noActiveTransaction => "No active transaction"
  | nameConflict name => "Database name conflict: '" ++ name ++ "' is already registered"
  | nameNotFound name => "No such database: '" ++ name ++ "'"
  | beginFailed _ => "Failed to begin transaction: "
  | savepointFailed savepoint _ => "Failed to create savepoint '" ++ savepoint ++ "': "
  | commitFailed _ => "Failed to commit transaction: "
  | rollbackFailed (some savepoint) _ => "Failed to roll back to savepoint '" ++ savepoint ++ "': "
  | rollbackFailed none _ => "Failed to roll back: "
  | connection text _ => "Connection failed: " ++ text
  | database text _ _ => "Database error: " ++ text
  | timeout operation seconds =>
    "Timeout: " ++ operation ++ " exceeded " ++ toString seconds ++ "s"
  | invalidInput text => "Invalid input: " ++ text
  | internal text => "Internal error: " ++ text

/-- The error of the database behind a failed transaction step. -/
def cause? : DbError → Option DbError
  | beginFailed cause => some cause
  | savepointFailed _ cause => some cause
  | commitFailed cause => some cause
  | rollbackFailed _ cause => some cause
  | _ => none

/-- The message of an error: its own opening, then the message of its cause. -/
def message : DbError → String
  | beginFailed cause => opening (beginFailed cause) ++ message cause
  | savepointFailed savepoint cause => opening (savepointFailed savepoint cause) ++ message cause
  | commitFailed cause => opening (commitFailed cause) ++ message cause
  | rollbackFailed savepoint cause => opening (rollbackFailed savepoint cause) ++ message cause
  | e => opening e

/-- What the user may do about the error. -/
def suggestion? : DbError → Option String
  | connection _ suggestion => some suggestion
  | database _ _ suggestion => some suggestion
  | beginFailed cause => suggestion? cause
  | savepointFailed _ cause => suggestion? cause
  | commitFailed cause => suggestion? cause
  | rollbackFailed _ cause => suggestion? cause
  | _ => none

/-- May the same call succeed later? -/
def isRetryable : DbError → Bool
  | connection _ _ => true
  | timeout _ _ => true
  | beginFailed cause => isRetryable cause
  | savepointFailed _ cause => isRetryable cause
  | commitFailed cause => isRetryable cause
  | rollbackFailed _ cause => isRetryable cause
  | _ => false

end DbError

/-- What an operation that may fail gives back. -/
abbrev DbResult (α : Type) : Type := Except DbError α

end NestedTx
