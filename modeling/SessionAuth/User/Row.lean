import SessionAuth.Database.Query
import SessionAuth.User.Basic

/-!
# Accounts as rows of the database

* `UserRow`: a row of the table of accounts; `RawRow`: a row in which any column may be empty.
* `UserRow.toUser`: the account in a row, whose columns have to keep the rules for accounts.
* `User.toRow`: the row of an account.
-/

namespace SessionAuth

/-- A row of the table of accounts. -/
structure UserRow where
  id : Int
  username : String
  name : String
  email : String
  passwordHash : String
  role : String
  createdAt : Instant
  updatedAt : Instant
  deletedAt : Option Instant
deriving DecidableEq, Repr

/-- The columns of a row, in their order. -/
def UserRow.columns : List String := [
  "id", "username", "name", "email", "password_hash", "role", "created_at", "updated_at",
  "deleted_at"]

def UserRow.toUser (row : UserRow) : Except DomainError User := do
  return {
    id := ← UserId.ofInt row.id
    username := ← Username.ofText row.username
    name := row.name
    email := ← Email.ofText row.email
    passwordHash := ← PasswordHash.ofText row.passwordHash
    role := ← Role.ofName row.role
    createdAt := row.createdAt
    updatedAt := row.updatedAt
    deletedAt := row.deletedAt }

def User.toRow (u : User) : UserRow :=
  ⟨u.id.val, u.username.text, u.name, u.email.text, u.passwordHash.text, u.role.name,
    u.createdAt.stored, u.updatedAt.stored, u.deletedAt.map Instant.stored⟩

/-- A row in which any column may be empty. -/
structure RawRow where
  id : Option Int
  username : Option String
  name : Option String
  email : Option String
  passwordHash : Option String
  role : Option String
  createdAt : Option Instant
  updatedAt : Option Instant
  deletedAt : Option Instant
deriving DecidableEq, Repr

namespace RawRow

def required {α : Type} (column : String) : Option α → Except Database.Fault α
  | some a => .ok a
  | none => .error (.column column "unexpected null; try decoding as an `Option`")

/-- The row, if every column that has to has a value. -/
def toRow (raw : RawRow) : Except Database.Fault UserRow := do
  return {
    id := ← required "id" raw.id
    username := ← required "username" raw.username
    name := ← required "name" raw.name
    email := ← required "email" raw.email
    passwordHash := ← required "password_hash" raw.passwordHash
    role := ← required "role" raw.role
    createdAt := ← required "created_at" raw.createdAt
    updatedAt := ← required "updated_at" raw.updatedAt
    deletedAt := raw.deletedAt }

def toUser (raw : RawRow) : Except DomainError User := do
  (← raw.toRow.mapError Database.Fault.toDomainError).toUser

end RawRow

end SessionAuth
