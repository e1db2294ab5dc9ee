import SessionAuth.Session.Basic
import SessionAuth.Time.Instant
import SessionAuth.Text.Digits

/-!
# The session store in memory

Every slot holds the token that was saved last, until it expires or is deleted. Time is a reading
of a clock that never goes back, in nanoseconds. An expired entry is dropped when it is read.

* `SessionStore.save`, `SessionStore.get`, `SessionStore.delete`: the operations.
* `SessionStore.live?`: the token that a slot holds at a time; the view through which the
  operations are to be read.
-/

namespace SessionAuth

/-- How long a token is kept when no time is given: a day. -/
def defaultLifetime : Duration := Duration.ofSeconds (24 * 60 * 60)

/-- The time for which a token is kept; none given means a day. -/
def lifetime (d : Duration) : Duration := if d.nanos = 0 then defaultLifetime else d

def clockLimit : Nat := (maxInt64.toNat + 1) * Instant.perSecond

/-- A token in a cache. -/
structure CacheEntry where
  key : String
  token : String
  /-- The reading of the clock from which on the token is gone. -/
  expires : Nat
deriving DecidableEq, Repr

/-- A cache of tokens, one entry per key. -/
structure SessionStore where
  entries : List CacheEntry
deriving Repr

namespace SessionStore

def empty : SessionStore := ⟨[]⟩

def entryAt? (s : SessionStore) (key : String) : Option CacheEntry :=
  s.entries.find? (·.key == key)

def remove (s : SessionStore) (key : String) : SessionStore :=
  ⟨s.entries.filter (·.key != key)⟩

/-- The store with an entry, which replaces the one under its key. -/
def put (s : SessionStore) (e : CacheEntry) : SessionStore := ⟨e :: (s.remove e.key).entries⟩

def live? (s : SessionStore) (now : Nat) (slot : Slot) : Option String :=
  ((s.entryAt? slot.key).filter (now < ·.expires)).map (·.token)

/-- Saves a session for a length of time. There is no result when its end lies beyond what the
clock can show. -/
def save (s : SessionStore) (now : Nat) (session : Session) (ttl : Duration) :
    Option SessionStore :=
  let expires := now + (lifetime ttl).nanos
  if expires < clockLimit then some (s.put ⟨session.slot.key, session.token, expires⟩) else none

/-- The session in a slot. Reading an empty or expired slot clears it. -/
def get (s : SessionStore) (now : Nat) (slot : Slot) : Option Session × SessionStore :=
  match s.live? now slot with
  | some token => (some ⟨slot.user, slot.kind, token⟩, s)
  | none => (none, s.remove slot.key)

def delete (s : SessionStore) (slot : Slot) : SessionStore := s.remove slot.key

end SessionStore

end SessionAuth
