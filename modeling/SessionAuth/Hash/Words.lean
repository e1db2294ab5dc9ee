/-!
# Words and bytes

The byte orders in which hash functions take in and give out their words.

* `beWords32`, `beBytes32`: 32-bit words, high byte first.
* `leWords64`, `leBytes64`, `leBytes32`: words with the low byte first.
* `chunks`: a list cut into pieces of one length.
-/

namespace SessionAuth.Hash

/-- A list of bytes as 32-bit words, high byte first. Bytes that fill no word are dropped. -/
def beWords32 : List UInt8 → List UInt32
  | a :: b :: c :: d :: rest =>
    (a.toUInt32 <<< 24 ||| b.toUInt32 <<< 16 ||| c.toUInt32 <<< 8 ||| d.toUInt32)
      :: beWords32 rest
  | _ => []

/-- The bytes of a 32-bit word, high byte first. -/
def beBytes32 (w : UInt32) : List UInt8 :=
  [(w >>> 24).toUInt8, (w >>> 16).toUInt8, (w >>> 8).toUInt8, w.toUInt8]

/-- The bytes of a 32-bit word, low byte first. -/
def leBytes32 (w : UInt32) : List UInt8 := (beBytes32 w).reverse

/-- The bytes of a 64-bit word, low byte first. -/
def leBytes64 (w : UInt64) : List UInt8 :=
  (List.range 8).map fun i => (w >>> (8 * i).toUInt64).toUInt8

/-- A list of bytes as 64-bit words, low byte first. Bytes that fill no word are dropped. -/
def leWords64 : List UInt8 → List UInt64
  | a :: b :: c :: d :: e :: f :: g :: h :: rest =>
    (a.toUInt64 ||| b.toUInt64 <<< 8 ||| c.toUInt64 <<< 16 ||| d.toUInt64 <<< 24
      ||| e.toUInt64 <<< 32 ||| f.toUInt64 <<< 40 ||| g.toUInt64 <<< 48 ||| h.toUInt64 <<< 56)
      :: leWords64 rest
  | _ => []

/-- Cuts a list into pieces of `size` elements, the last one possibly shorter. The length of the
list is fuel enough. -/
def chunksFrom {α : Type} (size : Nat) : (fuel : Nat) → List α → List (List α)
  | 0, _ => []
  | _, [] => []
  | fuel + 1, xs => xs.take size :: chunksFrom size fuel (xs.drop size)

/-- Cuts a list into pieces of `size` elements, the last one possibly shorter. -/
def chunks {α : Type} (size : Nat) (xs : List α) : List (List α) := chunksFrom size xs.length xs

def utf8 (s : String) : List UInt8 := s.toUTF8.data.toList

/-- Where bytes are wanted, a text stands for what it is in UTF-8. -/
instance instCoeUtf8 : Coe String (List UInt8) := ⟨utf8⟩

def ofUtf8? (bytes : List UInt8) : Option String := String.fromUTF8? ⟨bytes.toArray⟩

end SessionAuth.Hash
