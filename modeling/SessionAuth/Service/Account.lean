import SessionAuth.Service.Auth
import SessionAuth.Text.Alphabetic

/-!
# Accounts

* `checkNewPassword`: the rule for new passwords: eight characters at least, among them a letter of
  any script and an ASCII digit.
* `register`: a new account.
* `changePassword`: another password and a new pair of tokens.
* `softDelete`: the end of an account.
* `profile`: what a caller may know about their own account.
-/

namespace SessionAuth

def minPasswordLength : Nat := 8

/-- Accepts a new password or gives the first rule that it breaks. -/
def checkNewPassword (password : String) : Except ServiceError Unit :=
  let cs := password.toList
  if cs.length < minPasswordLength then
    .error (.validation
      ("password must be at least " ++ Text.natText minPasswordLength ++ " characters"))
  else if cs.any Text.isAlphabetic && cs.any Char.isDigit then .ok ()
  else .error (.validation "password must contain at least one letter and one digit")

namespace Service

open Operation

def ownAccount (id : UserId) : Operation User := do
  match ← ofDomain (← ask (.findById id)) with
  | some user => return user
  | none => throw (.notFound "user not found")

def newHash (password : String) : Operation PasswordHash := do
  let text ← ofResult (← ask (.hashPassword password))
  ofDomain (PasswordHash.ofText text)

/-- What a new account is asked for. -/
structure Registration where
  username : String
  name : String
  email : String
  password : String
deriving DecidableEq, Repr

/-- Makes a new account. The username may not belong to another one. -/
def register (r : Registration) : Operation UserView := do
  let username ← ofDomain (Username.ofText r.username)
  let email ← ofDomain (Email.ofText r.email)
  if Text.isBlankText r.name then throw (.validation "name cannot be empty")
  ofResult (checkNewPassword r.password)
  if (← ofDomain (← ask (.findByUsername username))).isSome then
    throw (.conflict "username already exists")
  let hash ← newHash r.password
  let now ← ask .readClock
  let user ← ofDomain (← ask (.insertUser (NewUser.make username r.name email hash now)))
  return user.view

/-- A failed check of the current password: only a failure that the caller is not to blame for is
told apart. -/
def checkFailure (e : ServiceError) : ServiceError :=
  if e.isInfrastructure then e else .auth .invalidCredentials

/-- Replaces the caller's password and opens a session in place of any earlier one. -/
def changePassword (caller : Caller) (current new : String) : Operation TokenPair := do
  let user ← ownAccount caller.id
  ofResult ((← ask (.checkPassword current user.passwordHash.text)).mapError checkFailure)
  ofResult (checkNewPassword new)
  let hash ← newHash new
  let now ← ask .readClock
  let updated ← ofDomain (← ask (.updatePassword user.id hash now))
  issueSession updated

def softDelete (caller : Caller) : Operation Unit := do
  revokeAll caller.id
  let now ← ask .readClock
  ofDomain (← ask (.softDelete caller.id now))

def profile (caller : Caller) : Operation Profile := do
  let user ← ownAccount caller.id
  match caller.claims.expiry?.bind Instant.ofUnix? with
  | none => return ⟨user.view, caller.roles, none, none⟩
  | some expires =>
    let now ← ask .readClock
    return ⟨user.view, caller.roles, some expires, some (max (now.secondsUntil expires) 0)⟩

end Service

end SessionAuth
