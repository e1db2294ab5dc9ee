import SessionAuth.Time.Calendar

/-!
# Instants and durations

An instant is a number of seconds since the start of 1970 and of nanoseconds within the second.
Inside a leap second the nanoseconds go on beyond `10^9`.

* `Instant.ofUnix?`: the instant of a whole second, within the years that the calendar covers.
* `Instant.secondsUntil`: the whole seconds from one instant to another.
* `Duration`: a length of time in nanoseconds.
-/

namespace SessionAuth

/-- A point in time. -/
structure Instant where
  seconds : Int
  nanos : Nat
deriving DecidableEq, Repr

namespace Instant

def perSecond : Nat := 1000000000

def minYear : Int := -262143

def maxYear : Int := 262142

def minSeconds : Int := (Date.mk minYear 1 1).toDays * 86400

def maxSeconds : Int := (Date.mk (maxYear + 1) 1 1).toDays * 86400 - 1

def inCalendar (t : Instant) : Bool := minSeconds ≤ t.seconds && t.seconds ≤ maxSeconds

/-- The instant at the start of a second, if the calendar covers it. -/
def ofUnix? (seconds : Int) : Option Instant :=
  if minSeconds ≤ seconds ∧ seconds ≤ maxSeconds then some ⟨seconds, 0⟩ else none

def toNanos (t : Instant) : Int := t.seconds * perSecond + t.nanos

/-- The whole seconds from one instant to another, without the fraction. -/
def secondsUntil (t u : Instant) : Int := (u.toNanos - t.toNanos).tdiv perSecond

end Instant

/-- A length of time, in nanoseconds. -/
structure Duration where
  nanos : Nat
deriving DecidableEq, Repr

namespace Duration

def ofSeconds (n : Nat) : Duration := ⟨n * Instant.perSecond⟩

def seconds (d : Duration) : Nat := d.nanos / Instant.perSecond

def millis (d : Duration) : Nat := d.nanos / 1000000

@[simp] theorem seconds_ofSeconds (n : Nat) : (ofSeconds n).seconds = n := by
  simp [seconds, ofSeconds, Instant.perSecond]

end Duration

end SessionAuth
