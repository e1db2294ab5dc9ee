import SessionAuth.Token.Claims
import SessionAuth.User.Basic

/-!
# What callers get to see

* `Caller`: who a caller is, once a token has been accepted.
* `TokenPair`, `UserView`, `LoginResult`, `Profile`: the results of operations. None of them holds
  a password hash.
-/

namespace SessionAuth

/-- Who a caller is. -/
structure Caller where
  id : UserId
  claims : Claims
deriving Repr

def Caller.roles (caller : Caller) : List String := caller.claims.roles

/-- Two tokens issued together. -/
structure TokenPair where
  access : String
  refresh : String
deriving DecidableEq, Repr

/-- An account without its password hash. -/
structure UserView where
  id : Nat
  username : String
  name : String
  email : String
  role : Role
  createdAt : Instant
deriving DecidableEq, Repr

def User.view (u : User) : UserView :=
  ⟨u.id.val, u.username.text, u.name, u.email.text, u.role, u.createdAt⟩

/-- The result of a login. -/
structure LoginResult where
  user : UserView
  tokens : TokenPair
deriving DecidableEq, Repr

/-- An account and what the caller's token says about it. -/
structure Profile where
  user : UserView
  roles : List String
  expiresAt : Option Instant
  /-- The whole seconds that are left, never negative. -/
  expiresIn : Option Int
deriving DecidableEq, Repr

end SessionAuth
