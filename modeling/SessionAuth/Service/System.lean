import SessionAuth.Password.Hasher
import SessionAuth.Service.Call
import SessionAuth.Session.Store
import SessionAuth.Token.Provider
import SessionAuth.User.Table

/-!
# The collaborators

A system holds everything that operations work on: the user table, the sessions, the token
provider, the hasher, the clocks and a source of random bytes.

* `System.serve`: what a healthy collaborator does when it is called.
* `System.advance`: time passes.
-/

namespace SessionAuth

/-- The collaborators of the service and their state. -/
structure System where
  users : UserTable
  sessions : SessionStore
  provider : TokenProvider
  hasher : Hasher
  /-- The wall clock, which the token provider reads. -/
  now : Instant
  /-- The seconds by which the clock of the service is ahead of the wall clock. -/
  clockAhead : Int
  /-- The clock of the session store, which never goes back, in nanoseconds. -/
  uptime : Nat
  /-- The random bytes of each draw. -/
  random : Nat → List UInt8
  /-- The number of draws so far. -/
  draws : Nat
  /-- The tokens signed so far, the latest one first. -/
  issued : List String

namespace System

def serviceTime (s : System) : Instant := ⟨s.now.seconds + s.clockAhead, s.now.nanos⟩

def live? (s : System) (slot : Slot) : Option String := s.sessions.live? s.uptime slot

def withUsers {α : Type} (s : System) : Except DomainError (α × UserTable) →
    Except DomainError α × System
  | .ok (a, users) => (.ok a, { s with users })
  | .error e => (.error e, s)

def sign (s : System) (user : UserId) (kind : TokenKind) (extra : Claims) : String × System :=
  let token := s.provider.issue s.now.seconds (Uuid.text (s.random s.draws)) user kind extra
  (token, { s with draws := s.draws + 1, issued := token :: s.issued })

/-- The answer of a healthy collaborator and the system after it. There is none when a session is
to be kept for longer than the clock can show. -/
def serve (s : System) : (c : Call) → Option (c.Answer × System)
  | .findByUsername name => some (.ok (s.users.findByUsername name), s)
  | .findById id => some (.ok (s.users.findById id), s)
  | .insertUser user => some (s.withUsers (s.users.insert user))
  | .updatePassword id hash at' => some (s.withUsers (s.users.updatePassword id hash at'))
  | .softDelete id at' =>
    some (s.withUsers ((s.users.softDelete id at').map fun p => ((), p.2)))
  | .hashPassword password =>
    some (s.hasher.hash (s.random s.draws) password, { s with draws := s.draws + 1 })
  | .checkPassword password stored => some (s.hasher.check password stored, s)
  | .signToken user kind extra =>
    let (token, s) := s.sign user kind extra
    some (.ok token, s)
  | .verifyToken token => some ((s.provider.verify s.now.seconds token).mapError .auth, s)
  | .saveSession session ttl =>
    (s.sessions.save s.uptime session ttl).map fun sessions => (.ok (), { s with sessions })
  | .getSession slot =>
    let (session, sessions) := s.sessions.get s.uptime slot
    some (.ok session, { s with sessions })
  | .deleteSession slot => some (.ok (), { s with sessions := s.sessions.delete slot })
  | .readClock => some (s.serviceTime, s)

def advance (s : System) (seconds : Nat) : System :=
  { s with
    now := { s.now with seconds := s.now.seconds + seconds }
    uptime := s.uptime + seconds * Instant.perSecond }

end System

end SessionAuth
