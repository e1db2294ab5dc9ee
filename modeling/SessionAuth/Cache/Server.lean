import SessionAuth.Cache.Command
import SessionAuth.Text.Digits

/-!
# A cache server

The server keeps a text under each key until its time is over. Time is a reading of its clock in
nanoseconds.

* `Cache.Server.run`: what a command does to the server, and the reply.
* `Cache.Server.read?`: the text under a key at a time.
-/

namespace SessionAuth.Cache

/-- A text under a key. -/
structure Item where
  key : String
  token : String
  /-- The reading of the clock from which on the text is gone. -/
  expires : Nat
deriving DecidableEq, Repr

/-- A cache server. -/
structure Server where
  items : List Item
deriving Repr

namespace Server

def empty : Server := ⟨[]⟩

def read? (s : Server) (now : Nat) (key : String) : Option String :=
  (s.items.find? fun i => i.key == key && now < i.expires).map (·.token)

def drop (s : Server) (key : String) : Server := ⟨s.items.filter (·.key != key)⟩

/-- The lifetimes that the server accepts, in milliseconds. -/
def acceptsMillis (n : Nat) : Bool := 0 < n && n ≤ maxInt64.toNat

def perMilli : Nat := 1000000

def run (s : Server) (now : Nat) : Command → Outcome × Server
  | .set key token millis =>
    if acceptsMillis millis then
      (.reply .done, ⟨⟨key, token, now + millis * perMilli⟩ :: (s.drop key).items⟩)
    else (.failed "the lifetime is out of range", s)
  | .get key =>
    match s.read? now key with
    | some token => (.reply (.text token), s)
    | none => (.reply .missing, s)
  | .delete key => (.reply (.int (if (s.read? now key).isSome then 1 else 0)), s.drop key)

end Server

end SessionAuth.Cache
