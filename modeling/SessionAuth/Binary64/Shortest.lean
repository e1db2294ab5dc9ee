import SessionAuth.Binary64.Basic

/-!
# The fewest digits that read back

Among the decimal numbers that round to a given number, the shortest has the fewest significant
digits, and of two such the nearer one is taken, or the even one of two as near. It is searched on
the grids of one digit, two digits and so on, where only the two neighbours of the number on the
grid can do.

* `Binary64.shortest`: the digits and the power of ten.
* `Binary64.covers`: whether a decimal number lies in the interval that rounds to the given one.
-/

namespace SessionAuth

/-- A decimal number `digits · 10^exponent`. -/
structure Scientific where
  digits : Nat
  exponent : Int
deriving DecidableEq, Repr

namespace Scientific

def num (s : Scientific) : Nat := s.digits * Nat.pow 10 s.exponent.toNat

def den (s : Scientific) : Nat := Nat.pow 10 (-s.exponent).toNat

/-- Drops trailing zeros, at most `fuel` of them. -/
def strip (fuel : Nat) (s : Scientific) : Scientific :=
  match fuel with
  | 0 => s
  | fuel + 1 => if s.digits % 10 = 0 then strip fuel ⟨s.digits / 10, s.exponent + 1⟩ else s

end Scientific

namespace Binary64

/-- The distance to the lower end of the interval that rounds to `x`, in quarters of a unit. -/
def gapBelow (x : Binary64) : Nat :=
  if x.significand = minSignificand ∧ 0 < x.shift then 1 <<< x.shift else 2 <<< x.shift

/-- The distance to the upper end of the interval, in quarters of a unit. -/
def gapAbove (x : Binary64) : Nat := 2 <<< x.shift

/-- Whether a decimal number rounds to the distance of `x` from zero. The ends of the interval
belong to it when the significand is even. -/
def covers (x : Binary64) (s : Scientific) : Bool :=
  let low := (4 * x.magnitude - x.gapBelow) * s.den
  let high := (4 * x.magnitude + x.gapAbove) * s.den
  let here := 4 * s.num * one
  if x.significand % 2 = 0 then low ≤ here && here ≤ high else low < here && here < high

/-- The distance between `x` and a decimal number, up to a factor that depends on the exponent
only. -/
def distance (x : Binary64) (s : Scientific) : Nat :=
  let a := x.magnitude * s.den
  let b := s.num * one
  (a - b) + (b - a)

/-- The first `k` from `start` on with `den ≤ num · 10^k`, in at most `fuel` steps. -/
def firstPower (num den : Nat) : (fuel start : Nat) → Nat
  | 0, start => start
  | fuel + 1, start =>
    if den ≤ num * Nat.pow 10 start then start else firstPower num den fuel (start + 1)

def leadingPower (x : Binary64) : Int :=
  if one ≤ x.magnitude then ((Nat.toDigits 10 x.wholePart).length : Int) - 1
  else -(firstPower x.magnitude one 330 1 : Int)

/-- The neighbours of `x` among the decimal numbers with `count` digits. -/
def neighbours (x : Binary64) (count : Nat) : Scientific × Scientific :=
  let exponent := x.leadingPower - count + 1
  let floor :=
    x.magnitude * Nat.pow 10 (-exponent).toNat / (one * Nat.pow 10 exponent.toNat)
  (⟨floor, exponent⟩, ⟨floor + 1, exponent⟩)

/-- The nearer one of two neighbours, and of two as near the one with even digits. -/
def nearer (x : Binary64) (a b : Scientific) : Scientific :=
  if x.distance a < x.distance b ∨ (x.distance a = x.distance b ∧ a.digits % 2 = 0) then a else b

/-- The best of the neighbours with `count` digits, if one of them rounds to `x`. -/
def candidate (x : Binary64) (count : Nat) : Option Scientific :=
  let (a, b) := x.neighbours count
  match x.covers a, x.covers b with
  | true, true => some (x.nearer a b)
  | true, false => some a
  | false, true => some b
  | false, false => none

/-- The shortest decimal number that rounds to the distance of `x` from zero. -/
def shortest (x : Binary64) : Scientific :=
  if x.significand = 0 then ⟨0, 0⟩
  else
    match (List.range 17).findSome? fun n => x.candidate (n + 1) with
    | some s => s.strip 20
    | none => ⟨0, 0⟩

end Binary64

end SessionAuth
