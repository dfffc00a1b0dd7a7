import NestedTx.Text.Ascii

/-!
# Kinds of databases

The three kinds of databases that can be registered, and how a connection string tells them apart.
-/

namespace NestedTx

open Text

/-- A kind of database. MariaDB counts as MySQL. -/
inductive DatabaseKind where
  | postgresql
  | mysql
  | sqlite
  deriving Repr, DecidableEq

namespace DatabaseKind

/-- The starts of a connection string that each kind of database is known by. -/
def schemes : List (String × DatabaseKind) :=
  [("postgres://", postgresql), ("postgresql://", postgresql), ("mysql://", mysql),
    ("mariadb://", mysql), ("sqlite:", sqlite)]

/-- The kind of database for a connection string, by its start in any case. No letter outside
ASCII has one of the letters of a scheme as its lower case, so the case of ASCII letters is all
that matters. -/
def ofConnectionString? (s : String) : Option DatabaseKind :=
  (schemes.find? fun scheme => scheme.1.toList.isPrefixOf (lowercase s.toList)).map (·.2)

/-- The name to show. -/
def displayName : DatabaseKind → String
  | postgresql => "PostgreSQL"
  | mysql => "MySQL"
  | sqlite => "SQLite"

/-- The name in settings and reports. -/
def name : DatabaseKind → String
  | postgresql => "postgresql"
  | mysql => "mysql"
  | sqlite => "sqlite"

/-- The kind of database with the given name. -/
def ofName? (s : String) : Option DatabaseKind :=
  [postgresql, mysql, sqlite].find? (·.name == s)

/-- The usual name of the driver. -/
def driverName : DatabaseKind → String
  | postgresql => "postgres"
  | mysql => "mysql"
  | sqlite => "sqlite3"

/-- The usual port of a server. -/
def defaultPort? : DatabaseKind → Option Nat
  | postgresql => some 5432
  | mysql => some 3306
  | sqlite => none

theorem ofName?_name (k : DatabaseKind) : ofName? k.name = some k := by
  cases k <;> rfl

end DatabaseKind

end NestedTx
