import SessionAuth.Json.Reader
import SessionAuth.Json.Value
import SessionAuth.Binary64.Scaled
import SessionAuth.Text.Digits

/-!
# Numbers in JSON text

A number without fraction and exponent is an integer if 64 bits hold it, signed or unsigned; every
other number is a binary64 number. Its digits are taken into a significand of 64 bits until the
next one would not fit; the rest of the integer digits only raise the power of ten, and the rest
of the fraction is dropped.

* `NumberText`: the parts of a number as written; `readNumberText` takes them from a text.
* `NumberText.value?`: the number, or nothing when it is too large for a binary64 number.
-/

namespace SessionAuth.Json

/-- The parts of a number as written. -/
structure NumberText where
  negative : Bool
  whole : List Char
  fraction : List Char
  exponent : Option Int
deriving Repr

def spanDigits (cs : List Char) : List Char × List Char := cs.span Char.isDigit

/-- Reads the fraction, if a point follows: one digit at least. -/
def readFraction : Reader (List Char)
  | '.' :: rest =>
    let (digits, rest) := spanDigits rest
    if digits.isEmpty then .error .malformed else .ok (digits, rest)
  | cs => .ok ([], cs)

def readSign : List Char → Bool × List Char
  | '-' :: rest => (true, rest)
  | '+' :: rest => (false, rest)
  | cs => (false, cs)

/-- Reads the digits of an exponent: one at least, with a sign in front. -/
def readPower : Reader (Option Int) := fun cs =>
  let (negative, cs) := readSign cs
  let (digits, rest) := spanDigits cs
  if digits.isEmpty then .error .malformed
  else
    let n : Int := Text.digitsValue 0 digits
    .ok (some (if negative then -n else n), rest)

/-- Reads the exponent, if its letter follows. -/
def readExponent : Reader (Option Int)
  | 'e' :: rest => readPower rest
  | 'E' :: rest => readPower rest
  | cs => .ok (none, cs)

/-- Reads a number after its sign. No zero may stand in front of other digits. -/
def readUnsigned (negative : Bool) : Reader NumberText := fun cs => do
  let (whole, cs) := spanDigits cs
  if whole.isEmpty || (whole.head? == some '0' && 1 < whole.length) then .error .malformed
  let (fraction, cs) ← readFraction cs
  let (exponent, cs) ← readExponent cs
  return (⟨negative, whole, fraction, exponent⟩, cs)

def readNumberText : Reader NumberText
  | '-' :: rest => readUnsigned true rest
  | cs => readUnsigned false cs

/-- Takes digits into a significand of 64 bits until one does not fit, and says how many digits
are left over. -/
def absorb (significand : Nat) : List Char → Nat × Nat
  | [] => (significand, 0)
  | c :: rest =>
    let next := 10 * significand + Text.digitValue c
    if next ≤ maxNat64 then absorb next rest else (significand, rest.length + 1)

namespace NumberText

def float? (t : NumberText) : Option Binary64 :=
  let (s, dropped) := absorb 0 t.whole
  let (s, left) := absorb s t.fraction
  let taken := t.fraction.length - left
  let x := Binary64.ofScientific s (dropped - taken + t.exponent.getD 0)
  x.map fun x => { x with negative := t.negative }

def integer (t : NumberText) : Int :=
  let n : Int := Text.digitsValue 0 t.whole
  if t.negative then -n else n

/-- Whether the number is an integer of 64 bits as written. A negative zero is none. -/
def isInteger (t : NumberText) : Bool :=
  t.fraction.isEmpty && t.exponent.isNone && minInt64 ≤ t.integer && t.integer ≤ maxNat64
    && !(t.negative && t.integer == 0)

/-- The number, or nothing when it is too large. -/
def value? (t : NumberText) : Option Number :=
  if t.isInteger then some (.int t.integer) else t.float?.map .float

end NumberText

def readNumber : Reader Number := fun cs => do
  let (t, rest) ← readNumberText cs
  match t.value? with
  | some n => .ok (n, rest)
  | none => .error .malformed

end SessionAuth.Json
