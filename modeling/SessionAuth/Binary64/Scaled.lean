import SessionAuth.Binary64.Basic

/-!
# From decimal scientific notation

A significand of at most 64 bits and a power of ten become a number in steps: the significand is
rounded, then multiplied or divided by the rounded power of ten, and each step rounds once. Two
roundings may land one place beside the nearest number.

* `Binary64.ofScientific`: the number, or nothing when it is too large.
-/

namespace SessionAuth.Binary64

def maxPower : Nat := 308

def powerOfTen (k : Nat) : Binary64 := (ofNat (Nat.pow 10 k)).getD (zero false)

/-- The quotient by a power of ten, which is never too large. -/
def divPower (x : Binary64) (k : Nat) : Binary64 := (x.div (powerOfTen k)).getD x

/-- A number divided by a power of ten. A power beyond the largest finite one is taken in two
steps, and beyond twice that nothing is left. -/
def divTen (x : Binary64) (k : Nat) : Binary64 :=
  if k ≤ maxPower then x.divPower k
  else if k ≤ 2 * maxPower then (x.divPower maxPower).divPower (k - maxPower)
  else zero x.negative

def mulTen (x : Binary64) (k : Nat) : Option Binary64 :=
  if x.significand = 0 then some x
  else if k ≤ maxPower then x.mul (powerOfTen k)
  else none

/-- The number `significand · 10^exponent`, rounded at each step. -/
def ofScientific (significand : Nat) (exponent : Int) : Option Binary64 := do
  let x ← ofNat significand
  match exponent with
  | .ofNat k => x.mulTen k
  | .negSucc k => some (x.divTen (k + 1))

end SessionAuth.Binary64
