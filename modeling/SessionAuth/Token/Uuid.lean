import SessionAuth.Text.Digits

/-!
# Random identifiers

* `Uuid.text`: 16 random bytes as an identifier of version 4, in lower case.
* `Uuid.isText`: whether a text is such an identifier.
-/

namespace SessionAuth.Uuid

def hexByte (b : UInt8) : List Char :=
  [Nat.digitChar (b.toNat / 16), Nat.digitChar (b.toNat % 16)]

def mark (i : Nat) (b : UInt8) : UInt8 :=
  if i = 6 then (b &&& 0x0f) ||| 0x40
  else if i = 8 then (b &&& 0x3f) ||| 0x80
  else b

def text (bytes : List UInt8) : String :=
  let digits := ((bytes.take 16).mapIdx mark).flatMap hexByte
  String.ofList (digits.take 8 ++ '-' :: (digits.drop 8).take 4 ++ '-' :: (digits.drop 12).take 4
    ++ '-' :: (digits.drop 16).take 4 ++ '-' :: digits.drop 20)

def isLowerHex (c : Char) : Bool := c.isDigit || ('a' ≤ c && c ≤ 'f')

def isText (s : String) : Bool :=
  let cs := s.toList
  let shape (i : Nat) (c : Char) : Bool :=
    if i = 8 ∨ i = 13 ∨ i = 18 ∨ i = 23 then c == '-'
    else if i = 14 then c == '4'
    else if i = 19 then "89ab".toList.contains c
    else isLowerHex c
  cs.length == 36 && (cs.mapIdx shape).all id

end SessionAuth.Uuid
