import SessionAuth.Cache.Command
import SessionAuth.Cache.Server
import SessionAuth.Error
import SessionAuth.Session.Store
import SessionAuth.Text.Digits

/-!
# Sessions in a cache

A slot is a key of the cache, and the cache forgets an expired token by itself. Every operation is
one command.

* `CachedSessions.saveCommand`, `getCommand`, `deleteCommand`: the commands.
* `CachedSessions.saved`, `found`, `deleted`: the results, by what came of the commands.
* `CachedSessions.save`, `get`, `delete`: the operations on a cache server.
-/

namespace SessionAuth.CachedSessions

/-- The command that saves a session. The largest number of 64 bits stands for every longer
time. -/
def saveCommand (s : Session) (ttl : Duration) : Cache.Command :=
  .set s.slot.key s.token (min (lifetime ttl).millis maxNat64)

def getCommand (slot : Slot) : Cache.Command := .get slot.key

def deleteCommand (slot : Slot) : Cache.Command := .delete slot.key

/-- The error of an address at which no cache can be. -/
def noAddress : ServiceError := .failed "error to create redis pool" "the address is not usable"

/-- The reply to a command, or the error that it ends with. -/
def received (heading : String) : Cache.Outcome → Except ServiceError Cache.Reply
  | .unavailable cause => .error (.failed "redis connection unavailable" cause)
  | .failed cause => .error (.failed heading cause)
  | .reply r => .ok r

/-- The result of saving. Any reply will do. -/
def saved (outcome : Cache.Outcome) : Except ServiceError Unit :=
  (received "redis SET failed" outcome).map fun _ => ()

/-- The result of clearing a slot. Any reply will do. -/
def deleted (outcome : Cache.Outcome) : Except ServiceError Unit :=
  (received "redis DEL failed" outcome).map fun _ => ()

def getHeading : String := "redis GET failed"

def found (slot : Slot) (outcome : Cache.Outcome) : Except ServiceError (Option Session) := do
  let reply ← received getHeading outcome
  let token ← reply.text?.mapError (ServiceError.failed getHeading)
  return token.map fun token => ⟨slot.user, slot.kind, token⟩

/-! ## On a cache server -/

def save (c : Cache.Server) (now : Nat) (s : Session) (ttl : Duration) :
    Except ServiceError Unit × Cache.Server :=
  let (outcome, c) := c.run now (saveCommand s ttl)
  (saved outcome, c)

def get (c : Cache.Server) (now : Nat) (slot : Slot) :
    Except ServiceError (Option Session) × Cache.Server :=
  let (outcome, c) := c.run now (getCommand slot)
  (found slot outcome, c)

def delete (c : Cache.Server) (now : Nat) (slot : Slot) :
    Except ServiceError Unit × Cache.Server :=
  let (outcome, c) := c.run now (deleteCommand slot)
  (deleted outcome, c)

end SessionAuth.CachedSessions
