import NestedTx.Error.Basic

/-!
# Errors of the database driver

What the driver below reports, the text it reports it in, and how each of its errors is
classified.
-/

namespace NestedTx

/-- An error of the driver. -/
inductive DriverError where
  | configuration (text : String)
  | database (text : String) (code : Option String) (report : String)
  | rowNotFound
  | poolTimedOut
  | poolClosed
  | io (text : String)
  | tls (text : String)
  | protocol (text : String)
  | columnNotFound (name : String)
  | columnIndexOutOfBounds (index length : Nat)
  | columnDecode (index text : String)
  | decode (text : String)
  | encode (text : String)
  | invalidArgument (text : String)
  | typeNotFound (name : String)
  | anyDriver (text : String)
  | workerCrashed
  | invalidSavepointStatement
  | beginFailed
  deriving Repr, DecidableEq

namespace DriverError

/-- The driver's own text for an error. -/
def message : DriverError → String
  | configuration text => "error with configuration: " ++ text
  | database _ _ report => "error returned from database: " ++ report
  | rowNotFound => "no rows returned by a query that expected to return at least one row"
  | poolTimedOut => "pool timed out while waiting for an open connection"
  | poolClosed => "attempted to acquire a connection on a closed pool"
  | io text => "error communicating with database: " ++ text
  | tls text => "error occurred while attempting to establish a TLS connection: " ++ text
  | protocol text => "encountered unexpected or invalid data: " ++ text
  | columnNotFound name => "no column found for name: " ++ name
  | columnIndexOutOfBounds index length =>
    "column index out of bounds: the len is " ++ toString length ++ ", but the index is " ++
      toString index
  | columnDecode index text => "error occurred while decoding column " ++ index ++ ": " ++ text
  | decode text => "error occurred while decoding: " ++ text
  | encode text => "error occurred while encoding a value: " ++ text
  | invalidArgument text => text
  | typeNotFound name => "type named " ++ name ++ " not found"
  | anyDriver text => "error in Any driver mapping: " ++ text
  | workerCrashed => "attempted to communicate with a crashed background worker"
  | invalidSavepointStatement => "attempted to call begin_with at non-zero transaction depth"
  | beginFailed => "got unexpected connection status after attempting to begin transaction"

/-- The class of an error of the driver, with a suggestion where the user can act. -/
def classify : DriverError → DbError
  | configuration text => .connection text "Check the connection string format and credentials"
  | database text code _ => .database text code "Check the SQL syntax and referenced objects"
  | rowNotFound =>
    .database "No rows returned" none "Verify the query conditions match existing data"
  | poolTimedOut => .timeout "connection pool acquire" 30
  | poolClosed => .connection "Connection pool is closed" "Register the database again"
  | io text =>
    .connection ("I/O error: " ++ text) "Check network connectivity and database server status"
  | tls text => .connection ("TLS error: " ++ text) "Verify TLS configuration and certificates"
  | protocol text =>
    .connection ("Protocol error: " ++ text) "Check database server compatibility"
  | columnNotFound name => .invalidInput ("Column not found: " ++ name)
  | columnIndexOutOfBounds index length =>
    .internal ("Column index " ++ toString index ++ " out of bounds (len: " ++ toString length ++
      ")")
  | columnDecode index text => .internal ("Failed to decode column " ++ index ++ ": " ++ text)
  | decode text => .internal ("Decode error: " ++ text)
  | workerCrashed => .internal "Database worker crashed"
  | e => .internal ("Unknown database error: " ++ e.message)

end DriverError

end NestedTx
