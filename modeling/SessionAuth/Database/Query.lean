import SessionAuth.Database.Fault
import SessionAuth.Text.Digits
import SessionAuth.Time.Rfc3339

/-!
# Queries

* `Database.Query`: the text of a query and its parameters.
* `Instant.stored`: an instant as the database keeps it, to the microsecond.
-/

namespace SessionAuth

namespace Instant

/-- The day from which the database counts time: the start of the year 2000. -/
def databaseEpoch : Int := (Date.mk 2000 1 1).toDays * 86400 * perSecond

def ofNanos (n : Int) : Instant := ⟨n / perSecond, (n % perSecond).toNat⟩

/-- The instant as the database keeps it: the nanoseconds beyond a whole number of microseconds
from its epoch are cut off. -/
def stored (t : Instant) : Instant :=
  ofNanos (databaseEpoch + (t.toNanos - databaseEpoch).tdiv 1000 * 1000)

end Instant

namespace Database

/-- A parameter of a query. -/
inductive Param where
  | int (n : Int)
  | text (s : String)
  | instant (t : Instant)
deriving DecidableEq, Repr

def Param.shown : Param → String
  | .int n => Text.intText n
  | .text s => s
  | .instant t => t.stored.text

/-- A query with parameters in the places `$1`, `$2` and so on. -/
structure Query where
  sql : String
  params : List Param
deriving DecidableEq, Repr

/-- What comes of a query: a row at most, and the number of rows that it has changed. -/
structure Result (Row : Type) where
  row : Option Row
  affected : Nat
deriving DecidableEq, Repr

end Database

end SessionAuth
