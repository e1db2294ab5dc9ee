import SessionAuth.Error
import SessionAuth.Session.Basic
import SessionAuth.Token.Signed
import SessionAuth.Token.Uuid

/-!
# Issuing and verifying tokens

* `TokenProvider.claims`: the claims of a token for a user, of which extra claims may replace any.
* `TokenProvider.issue`: the signed token.
* `TokenProvider.verify`: the claims of a token that is genuine and has not expired.
-/

namespace SessionAuth

/-- The secret and the lifetimes of tokens. -/
structure TokenProvider where
  secret : List UInt8
  accessTtl : Duration
  refreshTtl : Duration
deriving Repr

namespace TokenProvider

def key (p : TokenProvider) : List UInt8 := p.secret

def ttl (p : TokenProvider) : TokenKind → Duration
  | .access => p.accessTtl
  | .refresh => p.refreshTtl

/-- The time at which a token expires: never later than a signed number of 64 bits can say. -/
def expiry (now : Int) (ttl : Duration) : Int :=
  min (now + min (ttl.seconds : Int) maxInt64) maxInt64

def canonical (p : TokenProvider) (now : Int) (id : String) (user : UserId) (kind : TokenKind) :
    Claims :=
  Json.Fields.ofList [
    (Claims.userIdKey, .string user.text),
    (Claims.subjectKey, .string user.text),
    (Claims.issuedKey, .int now),
    (Claims.expiryKey, .int (expiry now (p.ttl kind))),
    (Claims.tokenIdKey, .string id),
    (Claims.kindKey, .string kind.name)]

/-- The claims of a token, with `extra` in place of what has the same key. -/
def claims (p : TokenProvider) (now : Int) (id : String) (user : UserId) (kind : TokenKind)
    (extra : Claims) : Claims :=
  (p.canonical now id user kind).merge extra

def issue (p : TokenProvider) (now : Int) (id : String) (user : UserId) (kind : TokenKind)
    (extra : Claims) : String :=
  Token.sign p.key (p.claims now id user kind extra)

/-- The claims of a token that the provider has signed and that has not expired. -/
def verify (p : TokenProvider) (now : Int) (token : String) : Except AuthError Claims :=
  match Token.open? p.key token with
  | some claims => if claims.isCurrent now then .ok claims else .error .invalidToken
  | none => .error .invalidToken

end TokenProvider

end SessionAuth
