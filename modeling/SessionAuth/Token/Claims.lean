import SessionAuth.Json.Value
import SessionAuth.User.Id
import SessionAuth.Text.Blank
import SessionAuth.Time.Instant

/-!
# Claims

A token carries claims, a JSON object. A user id or a time among them may be spelt as a string, as
an integer or as a binary64 number.

* `userIdOf`, `subject`: the user that the claims name.
* `timeOf?`, `expiry?`: the seconds since the start of 1970 that a claim states.
* `remaining?`: the whole seconds that are left before the claims expire.
* `roles`: the roles that the claims list.
-/

namespace SessionAuth

abbrev Claims := Json.Fields

namespace Claims

/-- The keys of the claims that the service writes and reads. -/
def userIdKey : String := "user_id"

@[inherit_doc userIdKey] def subjectKey : String := "sub"

@[inherit_doc userIdKey] def expiryKey : String := "exp"

@[inherit_doc userIdKey] def issuedKey : String := "iat"

@[inherit_doc userIdKey] def tokenIdKey : String := "jti"

@[inherit_doc userIdKey] def kindKey : String := "token_type"

@[inherit_doc userIdKey] def rolesKey : String := "roles"

@[inherit_doc userIdKey] def nameKey : String := "name"

/-- The largest number up to which every whole number is a binary64 number, `2^53`. -/
def exactLimit : Nat := 9007199254740992

/-- The whole number that a binary64 number is, if it is one and not beyond the limit up to which
whole numbers are exact. -/
def exactNat? (x : Binary64) : Option Nat :=
  if x.isWhole && (!x.negative || x.significand == 0) && x.wholePart ≤ exactLimit
  then some x.wholePart else none

def natOf? : Json → Option Nat
  | .string s => Text.readNat? maxNat64 (Text.trim s)
  | .number (.int n) => if n < 0 then none else some n.toNat
  | .number (.float x) => exactNat? x
  | _ => none

def userIdOf (value : Json) : Except AuthError UserId :=
  match (natOf? value).bind UserId.ofNat? with
  | some id => .ok id
  | none => .error .invalidSubject

/-- The user that the claims name: under the key for user ids, or else as the subject. -/
def subject (claims : Claims) : Except AuthError UserId :=
  match (claims.get? userIdKey).or (claims.get? subjectKey) with
  | some value => userIdOf value
  | none => .error .invalidSubject

/-- The seconds since the start of 1970 that a claim spells. A fraction is dropped, and a number
from the limit of exact whole numbers on says nothing. -/
def timeOf? : Json → Option Int
  | .number (.int n) => if n ≤ maxInt64 then some n else none
  | .number (.float x) =>
    if x.magnitude < exactLimit * Binary64.one then some x.truncate else none
  | .string s => Text.readInt? minInt64 maxInt64 (Text.trim s)
  | _ => none

def expiry? (claims : Claims) : Option Int := (claims.get? expiryKey).bind timeOf?

/-- Whether the claims state a time of expiry that is still to come. -/
def isCurrent (claims : Claims) (now : Int) : Bool :=
  match expiry? claims with
  | some time => now < time
  | none => false

/-- The whole seconds before the claims expire, as long as there are any and a signed number of
64 bits holds them. -/
def remaining? (claims : Claims) (now : Int) : Option Nat := do
  let time ← expiry? claims
  let left := time - now
  if 0 < left ∧ left ≤ maxInt64 then some left.toNat else none

/-- The roles that the claims list. What is no string is passed over. -/
def roles (claims : Claims) : List String :=
  match (claims.get? rolesKey).bind Json.array? with
  | some items => items.filterMap Json.string?
  | none => []

end Claims

end SessionAuth
