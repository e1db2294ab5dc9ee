/-!
# Finite binary64 numbers

A finite number is a sign, a significand below `2^53` and a shift: its value is
`± significand · 2^shift` in units of `2^(-1074)`, the smallest positive number of the format.
Everything is computed in natural numbers, so each operation is the exact result correctly
rounded.

* `Binary64.round`: the nearest number to a fraction, a tie going to the even significand.
* `Binary64.mul`, `Binary64.div`: the exact product and quotient, rounded.
* `Binary64.Normal`: what every number so made satisfies.
-/

namespace SessionAuth

/-- A finite binary64 number, `± significand · 2^(shift - 1074)`. -/
structure Binary64 where
  negative : Bool
  significand : Nat
  shift : Nat
deriving DecidableEq, Repr

namespace Binary64

def one : Nat := 1 <<< 1074

def maxShift : Nat := 2045

/-- The least significand of a number that is not among the smallest ones, `2^52`. -/
def minSignificand : Nat := 4503599627370496

/-- The significand lies below `2^53`, and it lies below `2^52` for the smallest shift only. -/
def Normal (x : Binary64) : Prop :=
  x.significand < 2 * minSignificand ∧ x.shift ≤ maxShift
    ∧ (minSignificand ≤ x.significand ∨ x.shift = 0)

instance (x : Binary64) : Decidable x.Normal := by unfold Normal; infer_instance

/-- The distance from zero, in smallest units. -/
def magnitude (x : Binary64) : Nat := x.significand <<< x.shift

def zero (negative : Bool) : Binary64 := ⟨negative, 0, 0⟩

/-- The quotient to the nearest whole number, a tie going to the even one. -/
def roundDiv (num den : Nat) : Nat :=
  let q := num / den
  let r := num % den
  if den < 2 * r || (2 * r == den && q % 2 == 1) then q + 1 else q

/-- The shift that leaves a quotient of `2^52` or more, if it has that many bits, below
`2^53`. -/
def shiftFor (q : Nat) : Nat := if q < 2 * minSignificand then 0 else q.log2 - 52

/-- The number nearest to `± units / den` smallest units; nothing beyond the largest finite
number. -/
def roundUnits (negative : Bool) (units den : Nat) : Option Binary64 :=
  let shift := shiftFor (units / den)
  let m := roundDiv units (den <<< shift)
  let x : Binary64 :=
    if m = 2 * minSignificand then ⟨negative, minSignificand, shift + 1⟩ else ⟨negative, m, shift⟩
  if x.shift ≤ maxShift then some x else none

/-- The number nearest to `± num / den`. -/
def round (negative : Bool) (num den : Nat) : Option Binary64 :=
  roundUnits negative (num * one) den

def ofNat (n : Nat) : Option Binary64 := round false n 1

/-- The product of two numbers, rounded. -/
def mul (x y : Binary64) : Option Binary64 :=
  roundUnits (x.negative != y.negative) (x.magnitude * y.magnitude) one

/-- The quotient by a number other than zero, rounded. -/
def div (x y : Binary64) : Option Binary64 :=
  roundUnits (x.negative != y.negative) (x.magnitude * one) y.magnitude

def isWhole (x : Binary64) : Bool := x.magnitude % one == 0

/-- The distance from zero, without its fraction. -/
def wholePart (x : Binary64) : Nat := x.magnitude / one

def truncate (x : Binary64) : Int :=
  if x.negative then -(x.wholePart : Int) else x.wholePart

end Binary64

end SessionAuth
