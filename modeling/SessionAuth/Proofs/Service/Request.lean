import SessionAuth.Service.Account

/-!
# What clients may ask for

* `Request`, `Request.Result`, `Request.operation`: the operations of the service as data.
* `TokenPair.token`: the token of a pair by its kind.
-/

namespace SessionAuth

/-- The token of a pair that is of some kind. -/
def TokenPair.token (pair : TokenPair) : TokenKind → String
  | .access => pair.access
  | .refresh => pair.refresh

namespace Service

/-- An operation of the service with its arguments. -/
inductive Request where
  | register (registration : Registration)
  | login (username password : String)
  | validate (raw : String)
  | refresh (raw : String)
  | logout (user : UserId)
  | changePassword (caller : Caller) (current new : String)
  | softDelete (caller : Caller)
  | profile (caller : Caller)

namespace Request

/-- What a request is answered with. -/
@[reducible] def Result : Request → Type
  | register _ => UserView
  | login _ _ => LoginResult
  | validate _ => Caller
  | refresh _ => TokenPair
  | logout _ => Unit
  | changePassword _ _ _ => TokenPair
  | softDelete _ => Unit
  | profile _ => Profile

/-- The operation that answers a request. -/
def operation : (r : Request) → Operation r.Result
  | register registration => Service.register registration
  | login username password => Service.login username password
  | validate raw => Service.validate raw
  | refresh raw => Service.refresh raw
  | logout user => Service.logout user
  | changePassword caller current new => Service.changePassword caller current new
  | softDelete caller => Service.softDelete caller
  | profile caller => Service.profile caller

end Request

end Service

end SessionAuth
