import SessionAuth.Text.Digits
import SessionAuth.Url.Basic

/-!
# Addresses of caches

The address of a cache is a URL. It names a host, with the number under which it listens and the
number of a database, or a socket in the file system. Encrypted connections are not offered.

* `Cache.Address.ofUrl?`: the address that a URL stands for.
* `Cache.Address.ofText?`: the address that a text spells.
-/

namespace SessionAuth.Cache

/-- Where a cache is to be found. -/
inductive Address where
  | host (host : Url.Host) (number : Nat) (database : Int)
  | socket (path : List UInt8) (database : Int)
deriving DecidableEq, Repr

namespace Address

/-- The number under which a cache listens when none is given. -/
def usualNumber : Nat := 6379

/-- The number of a database: a signed number of 64 bits. -/
def database? (text : String) : Option Int := Text.readInt? minInt64 maxInt64 text

/-- Whether the values of a query ask for a protocol that there is. -/
def protocolKnown (values : List (String × Option String)) : Bool :=
  match values.lookup "protocol" with
  | some (some name) => ["2", "resp2", "3", "resp3"].contains name
  | some none => false
  | none => true

def pathDatabase? (p : Url.Path) : Option Int :=
  let slash := fun (c : Char) => c == '/'
  let name := ((p.toText.dropWhile slash).reverse.dropWhile slash).reverse
  if name.isEmpty then some 0 else database? (String.ofList name)

def queryDatabase? (values : List (String × Option String)) : Option Int :=
  match values.lookup "db" with
  | some text => text.bind database?
  | none => some 0

/-- The address of a host, which has to be a certain one. Name and password of a user have to be
texts. -/
def hostOf? (u : Url) : Option Address := do
  let host ← u.host.filter (!·.isUnspecified)
  let database ← pathDatabase? u.path
  let _ ← Url.percentText? u.user
  let _ ← Url.percentText? u.password
  if protocolKnown (Url.queryValues u.query) then
    some (.host host (u.number.getD usualNumber) database)
  else none

/-- The address of a socket, which has to be one of the machine itself. -/
def socketOf? (u : Url) : Option Address := do
  let values := Url.queryValues u.query
  let path ← u.path.bytes?
  let database ← queryDatabase? values
  if u.host.all Url.Host.isLocal && protocolKnown values then some (.socket path database)
  else none

def ofUrl? (u : Url) : Option Address :=
  if ["redis", "valkey"].contains u.scheme then hostOf? u
  else if ["unix", "redis+unix", "valkey+unix"].contains u.scheme then socketOf? u
  else none

def ofText? (text : String) : Option Address := (Url.ofText? text).bind ofUrl?

end Address

end SessionAuth.Cache
