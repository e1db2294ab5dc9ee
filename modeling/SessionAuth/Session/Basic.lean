import SessionAuth.User.Id

/-!
# Sessions

A user has one slot for each kind of token, and a slot holds one token at most.

* `Slot.key`: the name of a slot in a cache.
* `Session.isFor`: whether a presented token is the one on record.
-/

namespace SessionAuth

/-- What a token is good for. -/
inductive TokenKind where
  /-- Proves who the caller is. -/
  | access
  /-- Buys a new pair of tokens. -/
  | refresh
deriving DecidableEq, Repr

namespace TokenKind

/-- Both kinds, in the order in which they are revoked. -/
def all : List TokenKind := [.access, .refresh]

def name : TokenKind → String
  | .access => "access"
  | .refresh => "refresh"

def ofName? : String → Option TokenKind
  | "access" => some .access
  | "refresh" => some .refresh
  | _ => none

@[simp] theorem ofName?_name (kind : TokenKind) : ofName? kind.name = some kind := by
  cases kind <;> rfl

end TokenKind

/-- The place for the current token of one kind of one user. -/
structure Slot where
  user : UserId
  kind : TokenKind
deriving DecidableEq, Repr

def Slot.key (slot : Slot) : String :=
  "token:user:" ++ slot.user.text ++ ":" ++ slot.kind.name

/-- A token on record. -/
structure Session where
  user : UserId
  kind : TokenKind
  token : String
deriving DecidableEq, Repr

namespace Session

def slot (s : Session) : Slot := ⟨s.user, s.kind⟩

/-- Whether a presented token is the one on record. An empty one never is. -/
def isFor (s : Session) (presented : String) : Bool := !s.token.isEmpty && s.token == presented

end Session

end SessionAuth
