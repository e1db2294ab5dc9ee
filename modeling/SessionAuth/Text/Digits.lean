/-!
# Numbers in digits

Reading in decimal is strict: ASCII digits only, leading zeros allowed, one sign in front at most,
and no value outside the stated range.

* `readNat?`: an optional plus sign and digits, up to a bound.
* `readInt?`: an optional sign and digits, between two bounds.
* `natText`, `intText`: the canonical spellings.
* `hexDigit`, `hexValue?`: the digit of a number below sixteen and the number of a digit.
* `maxNat64`, `minInt64`, `maxInt64`: the bounds of 64 bits, unsigned and signed.
-/

namespace SessionAuth

/-- The largest number of 64 bits, `2^64 - 1`. -/
def maxNat64 : Nat := 18446744073709551615

/-- The smallest signed number of 64 bits, `-2^63`. -/
def minInt64 : Int := -9223372036854775808

/-- The largest signed number of 64 bits, `2^63 - 1`. -/
def maxInt64 : Int := 9223372036854775807

namespace Text

/-! ## Decimal digits -/

def digitValue (c : Char) : Nat := c.toNat - '0'.toNat

/-- The number that a string of digits spells, continuing from `acc`. -/
def digitsValue (acc : Nat) (cs : List Char) : Nat :=
  cs.foldl (fun n c => 10 * n + digitValue c) acc

def isDigits (cs : List Char) : Bool := !cs.isEmpty && cs.all Char.isDigit

def readDigits? (cs : List Char) : Option Nat :=
  if isDigits cs then some (digitsValue 0 cs) else none

def dropPlus : List Char → List Char
  | '+' :: r => r
  | cs => cs

/-- A natural number up to `max`, with an optional plus sign. -/
def readNat? (max : Nat) (s : String) : Option Nat :=
  (readDigits? (dropPlus s.toList)).filter (· ≤ max)

/-- An integer from `min` to `max`, with an optional sign. -/
def readInt? (min max : Int) (s : String) : Option Int :=
  let value : Option Int := match s.toList with
    | '-' :: r => (readDigits? r).map fun n => -(n : Int)
    | cs => (readDigits? (dropPlus cs)).map fun n => (n : Int)
  value.filter fun n => min ≤ n && n ≤ max

def natText (n : Nat) : String := String.ofList (Nat.toDigits 10 n)

def intText (n : Int) : String :=
  if n < 0 then "-" ++ natText n.natAbs else natText n.natAbs

/-- The digits of `n`, with zeros in front up to `width` of them. -/
def padded (width n : Nat) : String :=
  let digits := Nat.toDigits 10 n
  String.ofList (List.replicate (width - digits.length) '0' ++ digits)

/-! ## Hexadecimal digits -/

def hexDigit (n : Nat) : Char := Nat.digitChar n

def hexValue? (c : Char) : Option Nat :=
  if c.isDigit then some (c.toNat - '0'.toNat)
  else if 'a' ≤ c ∧ c ≤ 'f' then some (c.toNat - 'a'.toNat + 10)
  else if 'A' ≤ c ∧ c ≤ 'F' then some (c.toNat - 'A'.toNat + 10)
  else none

end Text

end SessionAuth
