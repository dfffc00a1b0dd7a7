import NestedTx.Text.Integer

/-!
# Command line

The arguments of the command and the variables of the environment that stand in for options that
are not given. A value may follow its option as the next argument or behind a `=`. It is looked at
when the next option begins, so an argument that is not known at all is found first.
-/

namespace NestedTx.Command

open Text

/-- What the command is asked to do. -/
structure Options where
  databases : List String
  queryTimeout : Nat
  logLevel : String
  jsonLogs : Bool
  deriving Repr, DecidableEq

/-- Why the command does not start. Help and version are asked for and are no mistakes. -/
inductive Stop where
  | displayHelp
  | displayVersion
  | invalidValue
  | valueValidation
  | unknownArgument
  | argumentConflict
  | tooManyValues
  deriving Repr, DecidableEq

/-- The name of a reason. -/
def Stop.name : Stop → String
  | displayHelp => "DisplayHelp"
  | displayVersion => "DisplayVersion"
  | invalidValue => "InvalidValue"
  | valueValidation => "ValueValidation"
  | unknownArgument => "UnknownArgument"
  | argumentConflict => "ArgumentConflict"
  | tooManyValues => "TooManyValues"

/-- The exit code of a command that does not start. -/
def Stop.exitCode : Stop → Nat
  | displayHelp => 0
  | displayVersion => 0
  | _ => 2

/-- The options that take a value. -/
inductive ValueOption where
  | database
  | queryTimeout
  | logLevel
  deriving Repr, DecidableEq

/-- What an argument that begins with a hyphen names. -/
inductive Named where
  | value (o : ValueOption)
  | jsonLogs
  | help
  | version
  deriving Repr, DecidableEq

/-- The option with the given long name. -/
def long? (name : String) : Option Named :=
  if name = "database" then some (.value .database)
  else if name = "query-timeout" then some (.value .queryTimeout)
  else if name = "log-level" then some (.value .logLevel)
  else if name = "json-logs" then some .jsonLogs
  else if name = "help" then some .help
  else if name = "version" then some .version
  else none

/-- The option with the given short name. -/
def short? (c : Char) : Option Named :=
  if c = 'd' then some (.value .database)
  else if c = 'h' then some .help
  else if c = 'V' then some .version
  else none

/-- The options read so far, and an option whose value is still to be looked at. -/
structure Reading where
  databases : Option (List String)
  queryTimeout : Option Nat
  logLevel : Option String
  jsonLogs : Option Bool
  pending : Option (ValueOption × Option String)
  deriving Repr

/-- Nothing is read yet. -/
def Reading.start : Reading := ⟨none, none, none, none, none⟩

/-- The values of a list between commas. -/
def splitValues (s : String) : List String :=
  (s.toList.splitOn ',').map String.ofList

/-- Takes in the value of an option. All but databases may be given only once. -/
def Reading.take (r : Reading) (o : ValueOption) (value : String) : Except Stop Reading :=
  match o with
  | .database => .ok { r with databases := some (r.databases.getD [] ++ splitValues value) }
  | .queryTimeout =>
    if r.queryTimeout.isSome then .error .argumentConflict
    else
      match natural? maxU64 value.toList with
      | some n => .ok { r with queryTimeout := some n }
      | none => .error .valueValidation
  | .logLevel =>
    if r.logLevel.isSome then .error .argumentConflict
    else .ok { r with logLevel := some value }

/-- Looks at a value that is still to be looked at. -/
def Reading.settle (r : Reading) : Except Stop Reading :=
  match r.pending with
  | none => .ok r
  | some (_, none) => .error .invalidValue
  | some (o, some value) => Reading.take { r with pending := none } o value

/-- Goes on with a named option and the value that is attached to it, if there is one. -/
def Reading.name (r : Reading) (n : Named) (attached : Option String) : Except Stop Reading :=
  match n, attached with
  | .value o, some value => do (← r.settle).take o value
  | .value o, none => do return { (← r.settle) with pending := some (o, none) }
  | _, some _ => .error .tooManyValues
  | .help, none => do
    let _ ← r.settle
    .error .displayHelp
  | .version, none => do
    let _ ← r.settle
    .error .displayVersion
  | .jsonLogs, none => do
    let r ← r.settle
    if r.jsonLogs.isSome then .error .argumentConflict else return { r with jsonLogs := some true }

/-- Goes on with an argument that is neither an option nor one of its values. -/
def Reading.plain (r : Reading) (value : String) : Except Stop Reading :=
  match r.pending with
  | some (o, none) => .ok { r with pending := some (o, some value) }
  | _ => .error .unknownArgument

/-- Goes on with the next argument. -/
def Reading.next (r : Reading) (arg : String) : Except Stop Reading :=
  match arg.toList with
  | '-' :: '-' :: body =>
    let (name, attached) := match splitFirst? '=' body with
      | some (name, value) => (name, some (String.ofList value))
      | none => (body, none)
    match long? (String.ofList name) with
    | some n => r.name n attached
    | none => .error .unknownArgument
  | '-' :: c :: body =>
    match short? c with
    | some (.value o) =>
      match body with
      | [] => r.name (.value o) none
      | '=' :: value => r.name (.value o) (some (String.ofList value))
      | _ => r.name (.value o) (some (String.ofList body))
    | some n => r.name n none
    | none => .error .unknownArgument
  | _ => r.plain arg

/-- Reads all arguments. Behind `--` no option is read. -/
def Reading.all (r : Reading) : List String → Except Stop Reading
  | [] => r.settle
  | arg :: rest =>
    if arg = "--" then (if rest = [] then r.settle else .error .unknownArgument)
    else do (← r.next arg).all rest

/-- Fills in what is not given from the environment, and then by defaults. -/
def Reading.complete (r : Reading) (env : String → Option String) : Except Stop Options := do
  let fill := fun (present : Bool) (o : ValueOption) (name : String) (r : Reading) =>
    match present, env name with
    | false, some value => r.take o value
    | _, _ => .ok r
  let r ← fill r.databases.isSome .database "TXNEST_DATABASE" r
  let r ← fill r.queryTimeout.isSome .queryTimeout "TXNEST_QUERY_TIMEOUT" r
  let r ← fill r.logLevel.isSome .logLevel "TXNEST_LOG_LEVEL" r
  let jsonLogs ← match r.jsonLogs, env "TXNEST_JSON_LOGS" with
    | some b, _ => .ok b
    | none, none => .ok false
    | none, some value =>
      if value = "true" then .ok true
      else if value = "false" then .ok false
      else .error .invalidValue
  return {
    databases := r.databases.getD []
    queryTimeout := r.queryTimeout.getD 30
    logLevel := r.logLevel.getD "warn"
    jsonLogs := jsonLogs }

/-- Reads the command line. -/
def readOptions (env : String → Option String) (args : List String) : Except Stop Options := do
  (← Reading.start.all args).complete env

end NestedTx.Command
