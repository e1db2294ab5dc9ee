/-!
# Base64 without padding

Three bytes become four characters; one or two bytes at the end become two or three. Reading is
strict: the unused bits of the last character have to be zero, so every byte string has exactly
one text.

* `Base64.Alphabet`: the last two of the 64 characters.
* `Base64.encode`, `Base64.decode?`: bytes to text and back.
* `value?_digit_standard`, `value?_digit_urlSafe`: a character reads back as its six
  bits.
-/

namespace SessionAuth.Base64

/-- The characters for 62 and 63. Those before them are the capital letters, the small letters
and the digits. -/
structure Alphabet where
  digit62 : Char
  digit63 : Char

def standard : Alphabet := ⟨'+', '/'⟩

def urlSafe : Alphabet := ⟨'-', '_'⟩

namespace Alphabet

def digit (a : Alphabet) (n : Nat) : Char :=
  if n < 26 then Char.ofNat ('A'.toNat + n)
  else if n < 52 then Char.ofNat ('a'.toNat + (n - 26))
  else if n < 62 then Char.ofNat ('0'.toNat + (n - 52))
  else if n = 62 then a.digit62
  else a.digit63

def value? (a : Alphabet) (c : Char) : Option Nat :=
  if 'A' ≤ c ∧ c ≤ 'Z' then some (c.toNat - 'A'.toNat)
  else if 'a' ≤ c ∧ c ≤ 'z' then some (c.toNat - 'a'.toNat + 26)
  else if '0' ≤ c ∧ c ≤ '9' then some (c.toNat - '0'.toNat + 52)
  else if c = a.digit62 then some 62
  else if c = a.digit63 then some 63
  else none

theorem value?_digit_standard : ∀ n < 64, standard.value? (standard.digit n) = some n := by
  decide +kernel

theorem value?_digit_urlSafe : ∀ n < 64, urlSafe.value? (urlSafe.digit n) = some n := by
  decide +kernel

end Alphabet

def encode (alphabet : Alphabet) : List UInt8 → List Char
  | a :: b :: c :: rest =>
    let n := (a.toNat * 256 + b.toNat) * 256 + c.toNat
    alphabet.digit (n / 262144) :: alphabet.digit (n / 4096 % 64) ::
      alphabet.digit (n / 64 % 64) :: alphabet.digit (n % 64) :: encode alphabet rest
  | [a, b] =>
    let n := a.toNat * 256 + b.toNat
    [alphabet.digit (n / 1024), alphabet.digit (n / 16 % 64), alphabet.digit (n % 16 * 4)]
  | [a] => [alphabet.digit (a.toNat / 4), alphabet.digit (a.toNat % 4 * 16)]
  | [] => []

def decode? (alphabet : Alphabet) : List Char → Option (List UInt8)
  | a :: b :: c :: d :: rest => do
    let a ← alphabet.value? a
    let b ← alphabet.value? b
    let c ← alphabet.value? c
    let d ← alphabet.value? d
    let n := ((a * 64 + b) * 64 + c) * 64 + d
    let tail ← decode? alphabet rest
    return UInt8.ofNat (n / 65536) :: UInt8.ofNat (n / 256 % 256) :: UInt8.ofNat (n % 256) :: tail
  | [a, b, c] => do
    let a ← alphabet.value? a
    let b ← alphabet.value? b
    let c ← alphabet.value? c
    if c % 4 = 0 then
      let n := (a * 64 + b) * 16 + c / 4
      some [UInt8.ofNat (n / 256), UInt8.ofNat (n % 256)]
    else none
  | [a, b] => do
    let a ← alphabet.value? a
    let b ← alphabet.value? b
    if b % 16 = 0 then some [UInt8.ofNat (a * 4 + b / 16)] else none
  | [_] => none
  | [] => some []

end SessionAuth.Base64
