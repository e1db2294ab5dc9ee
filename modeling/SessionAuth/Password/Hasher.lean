import SessionAuth.Error
import SessionAuth.Hash.Argon2
import SessionAuth.Password.Stored

/-!
# Hashing passwords

A hasher turns a password and random bytes into a text, and says whether a password belongs to
such a text.

* `Hasher.argon2`: Argon2 in its hybrid variant with the usual costs; a stored hash is checked
  with the settings that it states itself.
* `Hasher.plain`: a hasher that hides nothing, for trying the service out.
-/

namespace SessionAuth

/-- A way to store passwords. -/
structure Hasher where
  /-- The text to store for a password, made with random bytes. -/
  hash : (salt : List UInt8) → (password : String) → Except ServiceError String
  /-- Accepts a password that belongs to a stored text. -/
  check : (password stored : String) → Except ServiceError Unit

namespace Hasher

/-! ## Argon2 -/

def variant? : String → Option Hash.Argon2.Variant
  | "argon2d" => some .dataDependent
  | "argon2i" => some .dataIndependent
  | "argon2id" => some .hybrid
  | _ => none

/-- The version with this number; none given means the newer one. -/
def version? : Option Nat → Option Hash.Argon2.Version
  | none => some .v19
  | some 16 => some .v16
  | some 19 => some .v19
  | some _ => none

def defaultParams : Hash.Argon2.Params := ⟨19456, 2, 1, [], 32⟩

/-- Bytes in Base64, up to a length. -/
def readBytes? (most : Nat) (value : String) : Option (List UInt8) :=
  (Base64.decode? Base64.standard value.toList).filter (·.length ≤ most)

def readParam? (p : Hash.Argon2.Params) (param : String × String) :
    Option Hash.Argon2.Params :=
  let decimal := (StoredHash.readDecimal param.2).toOption
  match param.1 with
  | "m" => decimal.map fun n => { p with memory := n }
  | "t" => decimal.map fun n => { p with passes := n }
  | "p" => decimal.map fun n => { p with lanes := n }
  | "keyid" => (readBytes? 8 param.2).map fun _ => p
  | "data" => (readBytes? 32 param.2).map fun bytes => { p with data := bytes }
  | _ => none

/-- The settings that a stored hash states, for a digest of `size` bytes. -/
def settings? (h : StoredHash) (size : Nat) : Option Hash.Argon2.Settings := do
  let variant ← variant? h.algorithm
  let version ← version? h.version
  let params ← h.params.foldlM readParam? { defaultParams with size := size }
  if params.usable then some ⟨variant, version, params⟩ else none

/-- The bytes of a salt, eight at least. -/
def saltBytes? (salt : String) : Option (List UInt8) :=
  (Base64.decode? Base64.standard salt.toList).filter (8 ≤ ·.length)

/-- The greatest number of bytes in a password, `2^32 - 1`. -/
def maxPasswordLength : Nat := 4294967295

def fits (password : String) : Bool := password.utf8ByteSize ≤ maxPasswordLength

def accepts (password : String) (h : StoredHash) : Bool :=
  match h.salt.bind saltBytes?, h.digest with
  | some salt, some digest =>
    match settings? h digest.length with
    | some settings =>
      fits password && Hash.argon2 settings (Hash.utf8 password) salt == digest
    | none => false
  | _, _ => false

def defaultSettings : Hash.Argon2.Settings := ⟨.hybrid, .v19, defaultParams⟩

def storedParams (p : Hash.Argon2.Params) : List (String × String) := [
  ("m", Text.natText p.memory), ("t", Text.natText p.passes), ("p", Text.natText p.lanes)]

def saltLength : Nat := 16

def store (salt : List UInt8) (password : String) : StoredHash :=
  let salt := salt.take saltLength
  ⟨"argon2id", some defaultSettings.version.number, storedParams defaultParams,
    some (String.ofList (Base64.encode Base64.standard salt)),
    some (Hash.argon2 defaultSettings (Hash.utf8 password) salt)⟩

/-- The text to store for a password. A password that is too long has none. -/
def hashArgon2 (salt : List UInt8) (password : String) : Except ServiceError String :=
  if fits password then .ok (store salt password).text
  else .error (.failed "error to hash password" "invalid password")

/-- Checks a password against a stored hash with the settings that it states. -/
def checkArgon2 (password stored : String) : Except ServiceError Unit :=
  match StoredHash.ofText stored with
  | .error fault => .error (.failed "stored password hash is malformed" fault.message)
  | .ok h => if accepts password h then .ok () else .error (.auth .invalidCredentials)

def argon2 : Hasher where
  hash := hashArgon2
  check := checkArgon2

/-! ## Plain text -/

def plainMark : String := "plain$"

def plain : Hasher where
  hash := fun _ password => .ok (plainMark ++ password)
  check := fun password stored =>
    if plainMark.toList.isPrefixOf stored.toList then
      if stored = plainMark ++ password then .ok () else .error (.auth .invalidCredentials)
    else .error (.infrastructure "unknown hash format")

end Hasher

end SessionAuth
