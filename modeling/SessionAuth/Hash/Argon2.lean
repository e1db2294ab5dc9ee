import SessionAuth.Hash.Blake2b

/-!
# Argon2

The memory-hard password hash in its three variants. The memory is a matrix of blocks of 1024
bytes: one row per lane, cut into four slices. A block is made from the one before it and from one
further block that the words of the previous block, or a sequence of addresses known in advance,
point to.

* `Params`: the costs and the length of the digest; `Params.usable` says which are accepted.
* `argon2`: the digest of a password and a salt.
-/

namespace SessionAuth.Hash

namespace Argon2

/-- How the second block is chosen. -/
inductive Variant where
  /-- By the previous block. -/
  | dataDependent
  /-- By addresses known in advance. -/
  | dataIndependent
  /-- By addresses known in advance in the first half of the first pass, then by the previous
  block. -/
  | hybrid
deriving DecidableEq, Repr

def Variant.code : Variant → Nat
  | .dataDependent => 0
  | .dataIndependent => 1
  | .hybrid => 2

/-- In version 16 a later pass overwrites a block, in version 19 it is added to the old one. -/
inductive Version where
  | v16
  | v19
deriving DecidableEq, Repr

def Version.number : Version → Nat
  | .v16 => 16
  | .v19 => 19

/-- The costs, the associated data and the number of bytes in the digest. -/
structure Params where
  memory : Nat
  passes : Nat
  lanes : Nat
  data : List UInt8
  size : Nat
deriving DecidableEq, Repr

/-- The greatest number of lanes, `2^24 - 1`. -/
def maxLanes : Nat := 16777215

/-- Parameters that the hash accepts: eight blocks of memory per lane at least, one pass at least
and a number of lanes within its limits. -/
def Params.usable (p : Params) : Bool :=
  8 ≤ p.memory && 1 ≤ p.passes && 1 ≤ p.lanes && p.lanes ≤ maxLanes && 8 * p.lanes ≤ p.memory
    && 4 ≤ p.size

/-- A row of sixteen words, an eighth of a block. -/
structure Row where
  w0 : UInt64
  w1 : UInt64
  w2 : UInt64
  w3 : UInt64
  w4 : UInt64
  w5 : UInt64
  w6 : UInt64
  w7 : UInt64
  w8 : UInt64
  w9 : UInt64
  w10 : UInt64
  w11 : UInt64
  w12 : UInt64
  w13 : UInt64
  w14 : UInt64
  w15 : UInt64
deriving Inhabited

namespace Row

def ofArray (ws : Array UInt64) (start : Nat) : Row :=
  let w (i : Nat) := ws.getD (start + i) 0
  ⟨w 0, w 1, w 2, w 3, w 4, w 5, w 6, w 7, w 8, w 9, w 10, w 11, w 12, w 13, w 14, w 15⟩

def toList (r : Row) : List UInt64 :=
  [r.w0, r.w1, r.w2, r.w3, r.w4, r.w5, r.w6, r.w7, r.w8, r.w9, r.w10, r.w11, r.w12, r.w13, r.w14,
    r.w15]

/-- The sum of two rows, bit by bit without carry. -/
def xor (a b : Row) : Row :=
  ⟨a.w0 ^^^ b.w0, a.w1 ^^^ b.w1, a.w2 ^^^ b.w2, a.w3 ^^^ b.w3, a.w4 ^^^ b.w4, a.w5 ^^^ b.w5,
    a.w6 ^^^ b.w6, a.w7 ^^^ b.w7, a.w8 ^^^ b.w8, a.w9 ^^^ b.w9, a.w10 ^^^ b.w10, a.w11 ^^^ b.w11,
    a.w12 ^^^ b.w12, a.w13 ^^^ b.w13, a.w14 ^^^ b.w14, a.w15 ^^^ b.w15⟩

@[inline] def rotr (x : UInt64) (n : UInt64) : UInt64 := x >>> n ||| x <<< (64 - n)

/-- The sum of two words and of twice the product of their low halves. -/
@[inline] def blend (x y : UInt64) : UInt64 :=
  x + y + 2 * ((x &&& 0xffffffff) * (y &&& 0xffffffff))

@[inline] def mix {α : Type} (a b c d : UInt64) (next : UInt64 → UInt64 → UInt64 → UInt64 → α) :
    α :=
  let a := blend a b
  let d := rotr (d ^^^ a) 32
  let c := blend c d
  let b := rotr (b ^^^ c) 24
  let a := blend a b
  let d := rotr (d ^^^ a) 16
  let c := blend c d
  let b := rotr (b ^^^ c) 63
  next a b c d

/-- Mixes a row: as a square of four by four words, its columns and then its diagonals. -/
def permute (r : Row) : Row :=
  mix r.w0 r.w4 r.w8 r.w12 fun a0 b0 c0 d0 =>
  mix r.w1 r.w5 r.w9 r.w13 fun a1 b1 c1 d1 =>
  mix r.w2 r.w6 r.w10 r.w14 fun a2 b2 c2 d2 =>
  mix r.w3 r.w7 r.w11 r.w15 fun a3 b3 c3 d3 =>
  mix a0 b1 c2 d3 fun a0 b1 c2 d3 =>
  mix a1 b2 c3 d0 fun a1 b2 c3 d0 =>
  mix a2 b3 c0 d1 fun a2 b3 c0 d1 =>
  mix a3 b0 c1 d2 fun a3 b0 c1 d2 =>
  ⟨a0, a1, a2, a3, b0, b1, b2, b3, c0, c1, c2, c3, d0, d1, d2, d3⟩

end Row

/-- A block of 128 words in eight rows. -/
structure Block where
  r0 : Row
  r1 : Row
  r2 : Row
  r3 : Row
  r4 : Row
  r5 : Row
  r6 : Row
  r7 : Row
deriving Inhabited

namespace Block

def ofArray (ws : Array UInt64) : Block :=
  let r (i : Nat) := Row.ofArray ws (16 * i)
  ⟨r 0, r 1, r 2, r 3, r 4, r 5, r 6, r 7⟩

def zero : Block := ofArray #[]

def toList (b : Block) : List UInt64 :=
  [b.r0, b.r1, b.r2, b.r3, b.r4, b.r5, b.r6, b.r7].flatMap Row.toList

@[inline] def mapRows (f : Row → Row) (b : Block) : Block :=
  ⟨f b.r0, f b.r1, f b.r2, f b.r3, f b.r4, f b.r5, f b.r6, f b.r7⟩

/-- The sum of two blocks, bit by bit without carry. -/
def xor (a b : Block) : Block :=
  ⟨a.r0.xor b.r0, a.r1.xor b.r1, a.r2.xor b.r2, a.r3.xor b.r3, a.r4.xor b.r4, a.r5.xor b.r5,
    a.r6.xor b.r6, a.r7.xor b.r7⟩

/-- A column of pairs: the same two words of every row. -/
@[inline] def column (b : Block) (x y : Row → UInt64) : Row :=
  ⟨x b.r0, y b.r0, x b.r1, y b.r1, x b.r2, y b.r2, x b.r3, y b.r3, x b.r4, y b.r4, x b.r5, y b.r5,
    x b.r6, y b.r6, x b.r7, y b.r7⟩

/-- The block as a square of eight by eight pairs, with rows and columns exchanged. -/
def transposed (b : Block) : Block :=
  ⟨b.column Row.w0 Row.w1, b.column Row.w2 Row.w3, b.column Row.w4 Row.w5,
    b.column Row.w6 Row.w7, b.column Row.w8 Row.w9, b.column Row.w10 Row.w11,
    b.column Row.w12 Row.w13, b.column Row.w14 Row.w15⟩

def compress (a b : Block) : Block :=
  let r := a.xor b
  let z := (r.mapRows Row.permute).transposed
  let z := (z.mapRows Row.permute).transposed
  z.xor r

/-- The first word, which points to another block. -/
def pointer (b : Block) : UInt64 := b.r0.w0

end Block

/-- A digest of any length: a single one up to 64 bytes, beyond that the first halves of a chain
of digests and all of the last one. -/
def longDigest (size : Nat) (message : List UInt8) : List UInt8 :=
  let input := leBytes32 (UInt32.ofNat size) ++ message
  if size ≤ 64 then blake2b size input
  else
    let count := (size + 31) / 32 - 2
    let first := blake2b 64 input
    let chain := (List.range (count - 1)).foldl
      (fun (out, v) _ => let v := blake2b 64 v; (v.take 32 :: out, v)) ([first.take 32], first)
    chain.1.reverse.flatten ++ blake2b (size - 32 * count) chain.2

def withLength (bytes : List UInt8) : List UInt8 :=
  leBytes32 (UInt32.ofNat bytes.length) ++ bytes

/-- What a hash is computed from, besides the password and the salt. -/
structure Settings where
  variant : Variant
  version : Version
  params : Params
deriving DecidableEq, Repr

def Settings.seed (s : Settings) (password salt : List UInt8) : List UInt8 :=
  let numbers := [s.params.lanes, s.params.size, s.params.memory, s.params.passes,
    s.version.number, s.variant.code]
  blake2b 64 (numbers.flatMap (fun n => leBytes32 (UInt32.ofNat n)) ++ withLength password
    ++ withLength salt ++ withLength [] ++ withLength s.params.data)

def Settings.segment (s : Settings) : Nat := s.params.memory / (4 * s.params.lanes)

def Settings.lane (s : Settings) : Nat := 4 * s.segment

/-- A part of the work: one slice of one lane in one pass. -/
structure Part where
  pass : Nat
  slice : Nat
  lane : Nat

def Settings.addressed (s : Settings) (part : Part) : Bool :=
  match s.variant with
  | .dataDependent => false
  | .dataIndependent => true
  | .hybrid => part.pass == 0 && part.slice < 2

/-- The addresses of a part, 128 from every block of them. -/
def Settings.addresses (s : Settings) (part : Part) : Array UInt64 :=
  let head := [part.pass, part.lane, part.slice, s.lane * s.params.lanes, s.params.passes,
    s.variant.code]
  let block (i : Nat) : List UInt64 :=
    let input := Block.ofArray ((head ++ [i + 1]).map UInt64.ofNat).toArray
    (Block.zero.compress (Block.zero.compress input)).toList
  ((List.range ((s.segment + 127) / 128)).flatMap block).toArray

/-- The place of the block that a pointer chooses for the block at `index` of a part. -/
def Settings.reference (s : Settings) (part : Part) (index : Nat) (pointer : UInt64) : Nat :=
  let first := part.pass == 0 && part.slice == 0
  let lane := if first then part.lane else (pointer >>> 32).toNat % s.params.lanes
  let done := if part.pass == 0 then part.slice * s.segment else s.lane - s.segment
  let area :=
    if lane == part.lane then done + index - 1 else done - (if index == 0 then 1 else 0)
  let low := (pointer &&& 0xffffffff).toNat
  let back := area * (low * low / 4294967296) / 4294967296
  let start := if part.pass == 0 || part.slice == 3 then 0 else (part.slice + 1) * s.segment
  lane * s.lane + (start + (area - 1 - back)) % s.lane

def Settings.fillPart (s : Settings) (memory : Array Block) (part : Part) : Array Block :=
  let addressed := s.addressed part
  let addresses := if addressed then s.addresses part else #[]
  let skip := if part.pass == 0 && part.slice == 0 then 2 else 0
  let step (memory : Array Block) (i : Nat) : Array Block :=
    let index := skip + i
    let column := part.slice * s.segment + index
    let here := part.lane * s.lane + column
    let before := if column == 0 then here + s.lane - 1 else here - 1
    let previous := memory.getD before Block.zero
    let pointer := if addressed then addresses.getD index 0 else previous.pointer
    let chosen := memory.getD (s.reference part index pointer) Block.zero
    let made := previous.compress chosen
    let made := if part.pass == 0 || s.version == .v16 then made
      else made.xor (memory.getD here Block.zero)
    memory.setIfInBounds here made
  (List.range (s.segment - skip)).foldl step memory

def blockOfBytes (bytes : List UInt8) : Block := Block.ofArray (leWords64 bytes).toArray

/-- The memory with the first two blocks of every lane. -/
def Settings.start (s : Settings) (seed : List UInt8) : Array Block :=
  let first (lane i : Nat) : Block :=
    blockOfBytes (longDigest 1024
      (seed ++ leBytes32 (UInt32.ofNat i) ++ leBytes32 (UInt32.ofNat lane)))
  (List.range s.params.lanes).foldl
    (fun memory lane => memory |>.setIfInBounds (lane * s.lane) (first lane 0)
      |>.setIfInBounds (lane * s.lane + 1) (first lane 1))
    (Array.replicate (s.lane * s.params.lanes) Block.zero)

def Settings.parts (s : Settings) : List Part :=
  (List.range s.params.passes).flatMap fun pass => (List.range 4).flatMap fun slice =>
    (List.range s.params.lanes).map fun lane => ⟨pass, slice, lane⟩

def Settings.lastBlock (s : Settings) (memory : Array Block) : Block :=
  (List.range s.params.lanes).foldl
    (fun b lane => b.xor (memory.getD (lane * s.lane + s.lane - 1) Block.zero)) Block.zero

end Argon2

open Argon2

def argon2 (s : Settings) (password salt : List UInt8) : List UInt8 :=
  let memory := s.parts.foldl s.fillPart (s.start (s.seed password salt))
  longDigest s.params.size ((s.lastBlock memory).toList.flatMap leBytes64)

end SessionAuth.Hash
