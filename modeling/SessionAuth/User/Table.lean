import SessionAuth.User.Basic

/-!
# The user table

Accounts are never removed: a deleted one stays in the table, but no look-up finds it, and its
username and e-mail address are free again.

* `UserTable`: the table, with the operations that the service asks of it.
* `UserTable.live`: the accounts that look-ups see.
-/

namespace SessionAuth

/-- The accounts, in the order of their insertion. -/
structure UserTable where
  rows : List User
deriving Repr

namespace UserTable

def empty : UserTable := ⟨[]⟩

def live (t : UserTable) : List User := t.rows.filter fun u => !u.isDeleted

/-- The account under an id, deleted or not. -/
def row? (t : UserTable) (id : UserId) : Option User := t.rows.find? (·.id == id)

/-- The account under an id, unless it is deleted. -/
def findById (t : UserTable) (id : UserId) : Option User := t.live.find? (·.id == id)

/-- The account with a username, unless it is deleted. -/
def findByUsername (t : UserTable) (name : Username) : Option User :=
  t.live.find? (·.username == name)

def lastId (t : UserTable) : Nat := t.rows.foldl (fun n u => max n u.id.val) 0

def add (t : UserTable) (u : User) : UserTable := ⟨t.rows ++ [u]⟩

/-- Replaces the rows with the id of `u` by `u`. -/
def replace (t : UserTable) (u : User) : UserTable :=
  ⟨t.rows.map fun v => if v.id = u.id then u else v⟩

/-- Adds an account under the id after the largest one. Username and e-mail address have to be
free. -/
def insert (t : UserTable) (n : NewUser) : Except DomainError (User × UserTable) :=
  if t.live.any (·.username == n.username) then .error (.conflict "username already exists")
  else if t.live.any (·.email == n.email) then .error (.conflict "email already exists")
  else
    match UserId.ofNat? (t.lastId + 1) with
    | some id => .ok (n.withId id, t.add (n.withId id))
    | none => .error (.persistence "no user id is left")

/-- The error of an operation on an account that is not there. -/
def missing : DomainError := .notFound "user not found"

def update (t : UserTable) (id : UserId) (change : User → User) :
    Except DomainError (User × UserTable) :=
  match t.findById id with
  | some u => .ok (change u, t.replace (change u))
  | none => .error missing

def updatePassword (t : UserTable) (id : UserId) (hash : PasswordHash) (at' : Instant) :
    Except DomainError (User × UserTable) :=
  t.update id (·.setPassword hash at')

def softDelete (t : UserTable) (id : UserId) (at' : Instant) :
    Except DomainError (User × UserTable) :=
  t.update id (·.markDeleted at')

end UserTable

end SessionAuth
