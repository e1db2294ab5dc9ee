import SessionAuth.User.Row

/-!
# Accounts in a database

Every operation is one query, and its result depends on what comes of the query.

* `UserRepository.Request`: a query together with the meaning of its result.
* `UserRepository.insert`, `findByUsername`, `findById`, `updatePassword`, `softDelete`: the
  operations. An id that is no key of the database is refused before anything is sent.
-/

namespace SessionAuth.UserRepository

open Database (Query Fault Result)

abbrev Outcome := Except Fault (Result RawRow)

/-- A query and what the outcome means. -/
structure Request (α : Type) where
  query : Query
  result : Outcome → Except DomainError α

def columnList : String := ", ".intercalate UserRow.columns

/-- The outcome, with a fault turned into what it means for users. -/
def checked (outcome : Outcome) : Except DomainError (Result RawRow) :=
  outcome.mapError Fault.toDomainError

/-- The account in a row, if there is a row. -/
def optionalUser (outcome : Outcome) : Except DomainError (Option User) := do
  match (← checked outcome).row with
  | some raw => return some (← raw.toUser)
  | none => return none

/-- The error of an operation on an account that is not there. -/
def missing : DomainError := .notFound "user not found"

def whereLive (column : String) : String :=
  " WHERE " ++ column ++ " = $1 AND deleted_at IS NULL"

def insert (n : NewUser) : Request User where
  query := {
    sql := "INSERT INTO users (username, name, email, password_hash, role, created_at, "
      ++ "updated_at) VALUES ($1, $2, $3, $4, $5, $6, $6) RETURNING " ++ columnList
    params := [.text n.username.text, .text n.name, .text n.email.text,
      .text n.passwordHash.text, .text n.role.name, .instant n.createdAt] }
  result := fun outcome => do
    match (← checked outcome).row with
    | some raw => raw.toUser
    | none => throw Fault.noRow.toDomainError

def selectBy (column : String) (value : Database.Param) : Query where
  sql := "SELECT " ++ columnList ++ " FROM users" ++ whereLive column
  params := [value]

def findByUsername (name : Username) : Request (Option User) where
  query := selectBy "username" (.text name.text)
  result := optionalUser

def findById (id : UserId) : Except DomainError (Request (Option User)) := do
  return ⟨selectBy "id" (.int (← id.toKey)), optionalUser⟩

def updatePassword (id : UserId) (hash : PasswordHash) (at' : Instant) :
    Except DomainError (Request User) := do
  return {
    query := {
      sql := "UPDATE users SET password_hash = $2, updated_at = $3" ++ whereLive "id"
        ++ " RETURNING " ++ columnList
      params := [.int (← id.toKey), .text hash.text, .instant at'] }
    result := fun outcome => do
      match (← checked outcome).row with
      | some raw => raw.toUser
      | none => throw missing }

def softDelete (id : UserId) (at' : Instant) : Except DomainError (Request Unit) := do
  return {
    query := {
      sql := "UPDATE users SET deleted_at = $2, updated_at = $2" ++ whereLive "id"
      params := [.int (← id.toKey), .instant at'] }
    result := fun outcome => do
      if (← checked outcome).affected = 0 then throw missing }

end SessionAuth.UserRepository
