/-!
# Errors

What goes wrong is a cause, not a text; each kind of error has one function that gives its
message.

* `DomainError`: a rule about users is broken, or the user table cannot be used.
* `AuthError`: the reasons to turn a caller away.
* `ServiceError`: what an operation of the service can end with.
* `ServiceError.isInfrastructure`: the failures that no caller is to blame for.
-/

namespace SessionAuth

/-- A broken rule about users, or a failure of the store that holds them. -/
inductive DomainError where
  | validation (text : String)
  | conflict (text : String)
  | notFound (text : String)
  /-- The store could not be reached or rejected the query. -/
  | persistence (text : String)
deriving DecidableEq, Repr

def DomainError.message : DomainError → String
  | .validation text => "validation error: " ++ text
  | .conflict text => "conflict: " ++ text
  | .notFound text => "not found: " ++ text
  | .persistence text => "persistence error: " ++ text

/-- Whether the error says that something is not there. -/
def DomainError.isNotFound : DomainError → Bool
  | .notFound _ => true
  | _ => false

/-- A reason to turn a caller away. -/
inductive AuthError where
  /-- The username is unknown or the password is wrong; the two are never told apart. -/
  | invalidCredentials
  | invalidToken
  /-- The token names no user. -/
  | invalidSubject
  /-- The token is genuine but not the one on record for its user. -/
  | tokenMismatch
  | invalidRefreshToken
deriving DecidableEq, Repr

def AuthError.message : AuthError → String
  | .invalidCredentials => "invalid credentials"
  | .invalidToken => "invalid token"
  | .invalidSubject => "invalid user id claim"
  | .tokenMismatch => "token mismatch"
  | .invalidRefreshToken => "invalid refresh token"

/-- What an operation of the service can end with. -/
inductive ServiceError where
  | domain (error : DomainError)
  | auth (error : AuthError)
  | validation (text : String)
  | notFound (text : String)
  | conflict (text : String)
  /-- A store, a lookup or a library failed. -/
  | infrastructure (text : String)
deriving DecidableEq, Repr

namespace ServiceError

def message : ServiceError → String
  | .domain e => e.message
  | .auth e => e.message
  | .validation text => "validation error: " ++ text
  | .notFound text => "resource not found: " ++ text
  | .conflict text => "conflict: " ++ text
  | .infrastructure text => "infrastructure failure: " ++ text

/-- A failure behind a stable heading, with the text of its cause. -/
def failed (heading cause : String) : ServiceError := .infrastructure (heading ++ ": " ++ cause)

/-- The authentication error inside, if it is one. -/
def auth? : ServiceError → Option AuthError
  | .auth e => some e
  | _ => none

/-- Whether a store, a lookup or a library failed, as opposed to a caller being rejected. -/
def isInfrastructure : ServiceError → Bool
  | .infrastructure _ => true
  | .domain (.persistence _) => true
  | _ => false

end ServiceError

instance : Coe DomainError ServiceError := ⟨.domain⟩
instance : Coe AuthError ServiceError := ⟨.auth⟩

end SessionAuth
