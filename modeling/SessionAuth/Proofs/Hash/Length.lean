import Mathlib.Data.List.Basic
import SessionAuth.Hash.Argon2

/-!
# Lengths of digests

A digest has as many bytes as it was asked for, up to the 64 that eight words give.

* `Blake2b.size_absorb`: what has come in is always held in eight words.
* `length_blake2b`, `length_argon2`: the lengths of digests.
-/

namespace SessionAuth.Hash

theorem length_leBytes64 (w : UInt64) : (leBytes64 w).length = 8 := by
  rw [leBytes64, List.length_map, List.length_range]

namespace Blake2b

theorem size_compress (h : Array UInt64) (block : List UInt8) (count : Nat) (last : Bool) :
    (compress h block count last).size = 8 := by
  rw [compress, Array.size_map, Array.size_range]

theorem size_start (size : Nat) : (start size).size = 8 := by
  rw [start, Array.size_modify]
  rfl

theorem size_absorb {h : Array UInt64} (hh : h.size = 8) (count : Nat)
    (blocks : List (List UInt8)) : (absorb h count blocks).size = 8 := by
  fun_induction absorb h count blocks with
  | case1 => exact hh
  | case2 h count block => exact size_compress _ _ _ _
  | case3 h count block rest hrest count' ih => exact ih (size_compress _ _ _ _)

end Blake2b

/-- **A digest has the length that it was asked for.** -/
theorem length_blake2b {size : Nat} (h : size ≤ 64) (message : List UInt8) :
    (blake2b size message).length = size := by
  have hbytes : ∀ words : List UInt64, (words.flatMap leBytes64).length = 8 * words.length := by
    intro words
    induction words with
    | nil => rfl
    | cons w words ih =>
      rw [List.flatMap_cons, List.length_append, length_leBytes64, ih, List.length_cons]
      omega
  rw [blake2b, List.length_take, hbytes, Array.length_toList,
    Blake2b.size_absorb (Blake2b.size_start size)]
  omega

theorem length_argon2 {s : Argon2.Settings} (h : s.params.size ≤ 64)
    (password salt : List UInt8) : (argon2 s password salt).length = s.params.size := by
  rw [argon2, Argon2.longDigest, if_pos h]
  exact length_blake2b h _

end SessionAuth.Hash
