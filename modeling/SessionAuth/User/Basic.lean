import SessionAuth.User.Id
import SessionAuth.User.Username
import SessionAuth.User.Email
import SessionAuth.User.Role
import SessionAuth.Time.Instant

/-!
# Users

* `PasswordHash`: the text that a password is checked against.
* `User`: an account as the user table keeps it.
* `NewUser`: an account that is not in the table yet.
* `User.setPassword`, `User.markDeleted`: the two ways in which an account changes.
-/

namespace SessionAuth

/-- The text that a password is checked against; never empty. -/
@[ext] structure PasswordHash where
  text : String
  nonempty : text.isEmpty = false
deriving DecidableEq

namespace PasswordHash

instance : Repr PasswordHash := ⟨fun hash _ => repr hash.text⟩

/-- The hash with this text, unless it is empty. -/
def ofText (text : String) : Except DomainError PasswordHash :=
  if h : text.isEmpty = false then .ok ⟨text, h⟩
  else .error (.validation "password hash cannot be empty")

end PasswordHash

/-- An account. -/
structure User where
  id : UserId
  username : Username
  name : String
  email : Email
  passwordHash : PasswordHash
  role : Role
  createdAt : Instant
  updatedAt : Instant
  deletedAt : Option Instant
deriving DecidableEq, Repr

namespace User

def isDeleted (u : User) : Bool := u.deletedAt.isSome

def setPassword (u : User) (hash : PasswordHash) (at' : Instant) : User :=
  { u with passwordHash := hash, updatedAt := at' }

def markDeleted (u : User) (at' : Instant) : User :=
  { u with deletedAt := some at', updatedAt := at' }

end User

/-- An account that is not in the table yet. -/
structure NewUser where
  username : Username
  name : String
  email : Email
  passwordHash : PasswordHash
  role : Role
  createdAt : Instant
deriving DecidableEq, Repr

namespace NewUser

/-- A new ordinary account. The name is trimmed. -/
def make (username : Username) (name : String) (email : Email) (hash : PasswordHash)
    (createdAt : Instant) : NewUser :=
  ⟨username, Text.trim name, email, hash, .user, createdAt⟩

def withId (n : NewUser) (id : UserId) : User :=
  ⟨id, n.username, n.name, n.email, n.passwordHash, n.role, n.createdAt, n.createdAt, none⟩

end NewUser

end SessionAuth
