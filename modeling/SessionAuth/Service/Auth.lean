import SessionAuth.Error
import SessionAuth.Service.Call
import SessionAuth.Service.View
import SessionAuth.Token.Signed

/-!
# Logging in and out

A token is good as long as it is the one on record for its user: a new token of the same kind
takes its place, and revoking clears the place.

* `issueSession`: a new pair of tokens on record.
* `login`, `refresh`, `validate`, `logout`: the operations.
-/

namespace SessionAuth.Service

open Operation

/-! ## Tokens on record -/

def sessionClaims (user : User) : Claims :=
  Json.Fields.ofList [
    (Claims.rolesKey, .array [.string user.role.name]), (Claims.nameKey, .string user.name)]

/-- Puts a token on record for as long as its own claims allow. A token that would be gone at once
is not kept. -/
def storeToken (session : Session) : Operation Unit := do
  let claims ← orFailed "error to create token" (← ask (.verifyToken session.token))
  let now ← ask .readClock
  match claims.remaining? now.seconds with
  | none => return
  | some seconds =>
    orFailed "error to save session" (← ask (.saveSession session (.ofSeconds seconds)))

/-- A new pair of tokens for a user, the access token first. Both take the places of the old
ones. -/
def issueSession (user : User) : Operation TokenPair := do
  let access ← ofResult (← ask (.signToken user.id .access (sessionClaims user)))
  storeToken ⟨user.id, .access, access⟩
  let refresh ← ofResult (← ask (.signToken user.id .refresh []))
  storeToken ⟨user.id, .refresh, refresh⟩
  return ⟨access, refresh⟩

def revoke (user : UserId) (kind : TokenKind) : Operation Unit := do
  orFailed "error to delete session" (← ask (.deleteSession ⟨user, kind⟩))

def revokeAll (user : UserId) : Operation Unit := do
  revoke user .access
  revoke user .refresh

/-! ## Login -/

/-- The user with a username and a password. Whatever goes wrong, the answer is the same. -/
def authenticate (username password : String) : Operation User := do
  match Username.ofText username with
  | .error _ => throw (.auth .invalidCredentials)
  | .ok name =>
    match ← ask (.findByUsername name) with
    | .ok (some user) =>
      match ← ask (.checkPassword password user.passwordHash.text) with
      | .ok () => return user
      | .error _ => throw (.auth .invalidCredentials)
    | _ => throw (.auth .invalidCredentials)

/-- Checks a username and a password and opens a session in place of any earlier one. -/
def login (username password : String) : Operation LoginResult := do
  let user ← authenticate username password
  let tokens ← issueSession user
  return ⟨user.view, tokens⟩

/-! ## Validation -/

/-- The caller behind a presented token, which has to be genuine and on record. -/
def validate (raw : String) : Operation Caller := do
  let token := bareToken raw
  match ← ask (.verifyToken token) with
  | .error _ => throw (.auth .invalidToken)
  | .ok claims =>
    let user ← ofResult (claims.subject.mapError .auth)
    let stored ← orFailed "error to retrieve session" (← ask (.getSession ⟨user, .access⟩))
    if stored.any (·.isFor token) then return ⟨user, claims⟩
    else throw (.auth .tokenMismatch)

/-! ## Refresh -/

/-- The user behind a presented refresh token, which has to be genuine and on record. -/
def checkRefresh (raw : String) : Operation UserId := do
  let token := bareToken raw
  let claims ← ofResult (← ask (.verifyToken token))
  let user ← ofResult (claims.subject.mapError .auth)
  let stored ← ofResult (← ask (.getSession ⟨user, .refresh⟩))
  if stored.any (·.isFor token) then return user
  else throw (.auth .tokenMismatch)

def refreshSubject (id : UserId) : Operation User := do
  match ← orFailed "error to get user by id" ((← ask (.findById id)).mapError .domain) with
  | some user => return user
  | none => throw (.auth .invalidRefreshToken)

/-- Trades the refresh token on record for a new pair. Whatever is wrong with the token, the
answer is the same. -/
def refresh (raw : String) : Operation TokenPair := do
  match ← attempt (checkRefresh raw) with
  | .error _ => throw (.auth .invalidRefreshToken)
  | .ok id =>
    let user ← refreshSubject id
    issueSession user

/-! ## Logout -/

/-- Clears both slots of a user, so that no token of theirs is on record. -/
def logout (user : UserId) : Operation Unit := revokeAll user

end SessionAuth.Service
