import SessionAuth.Hash.Words
import SessionAuth.Text.Digits

/-!
# BLAKE2b

* `blake2b`: the digest of a byte string, of 1 to 64 bytes, without a key.
-/

namespace SessionAuth.Hash

namespace Blake2b

def initial : Array UInt64 := #[
  0x6a09e667f3bcc908, 0xbb67ae8584caa73b, 0x3c6ef372fe94f82b, 0xa54ff53a5f1d36f1,
  0x510e527fade682d1, 0x9b05688c2b3e6c1f, 0x1f83d9abfb41bd6b, 0x5be0cd19137e2179]

def permutations : List (List Nat) := [
  [0, 1, 2, 3, 4, 5, 6, 7, 8, 9, 10, 11, 12, 13, 14, 15],
  [14, 10, 4, 8, 9, 15, 13, 6, 1, 12, 0, 2, 11, 7, 5, 3],
  [11, 8, 12, 0, 5, 2, 15, 13, 10, 14, 3, 6, 7, 1, 9, 4],
  [7, 9, 3, 1, 13, 12, 11, 14, 2, 6, 5, 10, 4, 0, 15, 8],
  [9, 0, 5, 7, 2, 4, 10, 15, 14, 1, 11, 12, 6, 8, 3, 13],
  [2, 12, 6, 10, 0, 11, 8, 3, 4, 13, 7, 5, 15, 14, 1, 9],
  [12, 5, 1, 15, 14, 13, 4, 10, 0, 7, 6, 3, 9, 2, 8, 11],
  [13, 11, 7, 14, 12, 1, 3, 9, 5, 0, 15, 4, 8, 6, 2, 10],
  [6, 15, 14, 9, 11, 3, 0, 8, 12, 2, 13, 7, 1, 4, 10, 5],
  [10, 2, 8, 4, 7, 6, 1, 5, 15, 11, 9, 14, 3, 12, 13, 0],
  [0, 1, 2, 3, 4, 5, 6, 7, 8, 9, 10, 11, 12, 13, 14, 15],
  [14, 10, 4, 8, 9, 15, 13, 6, 1, 12, 0, 2, 11, 7, 5, 3]]

/-- The positions that the eight mixing steps of a round work on: columns, then diagonals. -/
def positions : List (Nat × Nat × Nat × Nat) := [
  (0, 4, 8, 12), (1, 5, 9, 13), (2, 6, 10, 14), (3, 7, 11, 15),
  (0, 5, 10, 15), (1, 6, 11, 12), (2, 7, 8, 13), (3, 4, 9, 14)]

def rotr (x : UInt64) (n : UInt64) : UInt64 := x >>> n ||| x <<< (64 - n)

def mix (v : Array UInt64) (at' : Nat × Nat × Nat × Nat) (x y : UInt64) : Array UInt64 :=
  let (i, j, k, l) := at'
  let a := v.getD i 0 + v.getD j 0 + x
  let d := rotr (v.getD l 0 ^^^ a) 32
  let c := v.getD k 0 + d
  let b := rotr (v.getD j 0 ^^^ c) 24
  let a := a + b + y
  let d := rotr (d ^^^ a) 16
  let c := c + d
  let b := rotr (b ^^^ c) 63
  v |>.setIfInBounds i a |>.setIfInBounds j b |>.setIfInBounds k c |>.setIfInBounds l d

def round (m : Array UInt64) (v : Array UInt64) (order : List Nat) : Array UInt64 :=
  (positions.zip (chunks 2 order)).foldl
    (fun v step => mix v step.1 (m.getD (step.2.getD 0 0) 0) (m.getD (step.2.getD 1 0) 0)) v

/-- Takes in one block of 128 bytes. `count` bytes have come in with it. -/
def compress (h : Array UInt64) (block : List UInt8) (count : Nat) (last : Bool) : Array UInt64 :=
  let m := (leWords64 (block ++ List.replicate (128 - block.length) 0)).toArray
  let v := h ++ initial
  let v := v.modify 12 (· ^^^ UInt64.ofNat count)
  let v := v.modify 13 (· ^^^ UInt64.ofNat (count / (maxNat64 + 1)))
  let v := if last then v.modify 14 (~~~ ·) else v
  let v := permutations.foldl (round m) v
  (Array.range 8).map fun i => h.getD i 0 ^^^ v.getD i 0 ^^^ v.getD (i + 8) 0

/-- The chaining value before the first block, for a digest of `size` bytes. -/
def start (size : Nat) : Array UInt64 :=
  initial.modify 0 (· ^^^ (0x01010000 ^^^ UInt64.ofNat size))

/-- Takes in the blocks of a message, of which `count` bytes have come in before. -/
def absorb (h : Array UInt64) (count : Nat) : List (List UInt8) → Array UInt64
  | [] => h
  | [block] => compress h block (count + block.length) true
  | block :: rest =>
    let count := count + block.length
    absorb (compress h block count false) count rest

end Blake2b

/-- The BLAKE2b digest of a byte string, `size` bytes long. -/
def blake2b (size : Nat) (message : List UInt8) : List UInt8 :=
  let blocks := if message.isEmpty then [[]] else chunks 128 message
  ((Blake2b.absorb (Blake2b.start size) 0 blocks).toList.flatMap leBytes64).take size

end SessionAuth.Hash
