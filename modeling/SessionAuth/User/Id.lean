import SessionAuth.Error
import SessionAuth.Text.Digits

/-!
# User ids

A user id is a positive number of 64 bits. Zero stands for no user.

* `UserId.ofNat`, `UserId.ofInt`: ids from numbers, refused with a reason.
* `UserId.toKey`: the id as a key of the user table, whose keys are signed.
-/

namespace SessionAuth

/-- A positive number of 64 bits. -/
@[ext] structure UserId where
  val : Nat
  pos : 0 < val
  le_max : val ≤ maxNat64
deriving DecidableEq

namespace UserId

theorem one_le_max : 1 ≤ maxNat64 := by decide

instance : Repr UserId := ⟨fun id _ => repr id.val⟩

/-- The id with this number, if there is one. -/
def ofNat? (n : Nat) : Option UserId :=
  if h : 0 < n ∧ n ≤ maxNat64 then some ⟨n, h.1, h.2⟩ else none

def ofNat (n : Nat) : Except DomainError UserId :=
  match ofNat? n with
  | some id => .ok id
  | none => .error (.validation "user id must be non-zero")

def ofInt (n : Int) : Except DomainError UserId :=
  if n < 0 then .error (.validation "user id must be non-negative") else ofNat n.toNat

/-- The key of the user table for the id: a signed number of 64 bits. -/
def toKey (id : UserId) : Except DomainError Int :=
  if id.val ≤ maxInt64 then .ok id.val else .error (.validation "user id out of range")

def text (id : UserId) : String := Text.natText id.val

theorem ofNat?_eq_some_iff {n : Nat} {id : UserId} : ofNat? n = some id ↔ id.val = n := by
  unfold ofNat?
  split
  · simp [UserId.ext_iff, eq_comm]
  · rename_i h
    simp only [reduceCtorEq, false_iff]
    rintro rfl
    exact h ⟨id.pos, id.le_max⟩

end UserId

end SessionAuth
