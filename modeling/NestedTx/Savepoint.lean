import NestedTx.Error.Basic
import NestedTx.Text.Ascii

/-!
# Savepoint names

The name of a savepoint stands in a statement as it is, so only plain identifiers are let through.
The savepoint of a nesting level is named for its provider and the level.
-/

namespace NestedTx.Savepoint

open Text

/-- May a name begin with the character? -/
def startsName (c : Char) : Bool :=
  c.isAlpha || c == '_'

/-- May the character stand in a name? -/
def inName (c : Char) : Bool :=
  c.isAlphanum || c == '_'

/-- Is the text an identifier of ASCII letters, digits and underscores? -/
def isValid : List Char → Bool
  | [] => false
  | c :: cs => startsName c && cs.all inName

/-- Lets an identifier through. -/
def validate (name : String) : DbResult Unit :=
  if isValid name.toList then .ok ()
  else
    .error (.invalidInput ("Invalid savepoint name '" ++ name ++
      "': expected letters, digits and underscores, not starting with a digit"))

/-- The savepoint of a nesting level. -/
def name (provider : String) (level : Nat) : String :=
  provider ++ "_sp_" ++ String.ofList (decimal level)

/-- The statement that sets a savepoint. -/
def setStatement (name : String) : String :=
  "SAVEPOINT " ++ name

/-- The statement that rolls back to a savepoint. -/
def rollbackStatement (name : String) : String :=
  "ROLLBACK TO SAVEPOINT " ++ name

end NestedTx.Savepoint
