import SessionAuth.Text.Digits

/-!
# Commands to a cache

A cache is a server that keeps texts under keys and forgets each of them after its time. A client
sends a command and gets a reply, unless the connection fails.

* `Cache.Command`, `Cache.Reply`: what is sent and what comes back.
* `Cache.Outcome`: what comes of an attempt to send a command.
* `Cache.Reply.text?`: a reply as a text that may be missing.
-/

namespace SessionAuth.Cache

/-- A command to a cache. -/
inductive Command where
  /-- Keeps a text under a key for a number of milliseconds. -/
  | set (key token : String) (millis : Nat)
  | get (key : String)
  | delete (key : String)
deriving DecidableEq, Repr

def Command.words : Command → List String
  | .set key token millis => ["SET", key, token, "PX", Text.natText millis]
  | .get key => ["GET", key]
  | .delete key => ["DEL", key]

/-- What a cache replies. -/
inductive Reply where
  | done
  | missing
  | int (n : Int)
  | text (s : String)
  /-- Bytes that are no text. -/
  | bytes
  | array
deriving DecidableEq, Repr

/-- What comes of an attempt to send a command. -/
inductive Outcome where
  /-- There is no connection, so nothing was sent. -/
  | unavailable (cause : String)
  /-- The cache refused the command, or the connection broke. -/
  | failed (cause : String)
  | reply (r : Reply)
deriving DecidableEq, Repr

/-- A reply as a text that may be missing; there are replies that are neither. -/
def Reply.text? : Reply → Except String (Option String)
  | .done => .ok (some "OK")
  | .missing => .ok none
  | .int n => .ok (some (Text.intText n))
  | .text s => .ok (some s)
  | .bytes => .error "the reply is no text"
  | .array => .error "the reply is a list"

end SessionAuth.Cache
