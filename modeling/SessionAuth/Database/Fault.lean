import SessionAuth.Error

/-!
# Faults of the database

* `Database.Fault`: why a query has no result.
* `Database.Fault.toDomainError`: what a fault means for users. The rules that the database keeps
  itself have names, and breaking one of them is told apart from a failure of the database.
-/

namespace SessionAuth.Database

/-- Why a query has no result. -/
inductive Fault where
  /-- The database rejected the query, perhaps with a code and the name of a rule. -/
  | rejected (text : String) (code rule : Option String)
  | noRow
  | poolTimedOut
  | poolClosed
  | workerCrashed
  | protocol (text : String)
  | columnNotFound (text : String)
  | io (text : String)
  | configuration (text : String)
  /-- The value of a column cannot be read. -/
  | column (name text : String)
deriving DecidableEq, Repr

namespace Fault

def message : Fault → String
  | .rejected text _ _ => text
  | .noRow => "no rows returned by a query that expected to return at least one row"
  | .poolTimedOut => "pool timed out while waiting for an open connection"
  | .poolClosed => "attempted to acquire a connection on a closed pool"
  | .workerCrashed => "attempted to communicate with a crashed background worker"
  | .protocol text => "encountered unexpected or invalid data: " ++ text
  | .columnNotFound text => "no column found for name: " ++ text
  | .io text => "error communicating with database: " ++ text
  | .configuration text => "error with configuration: " ++ text
  | .column name text => "error occurred while decoding column \"" ++ name ++ "\": " ++ text

def ofRule : String → DomainError
  | "users_username_key" => .conflict "username already exists"
  | "users_email_key" => .conflict "email already exists"
  | "users_role_check" => .validation "unknown role"
  | other => .persistence ("database constraint violation: " ++ other)

def ofCode? : String → Option DomainError
  | "23505" => some (.conflict "unique constraint violated")
  | "23514" => some (.validation "check constraint violated")
  | _ => none

def toDomainError : Fault → DomainError
  | .rejected _ _ (some rule) => ofRule rule
  | .rejected text code none => (code.bind ofCode?).getD (.persistence text)
  | fault => .persistence fault.message

end Fault

end SessionAuth.Database
