import SessionAuth.Json.Parts

/-!
# Algorithms and public keys in token headers

A header names an algorithm, and it may carry a public key. The key is not used, but a header with
something else in its place is no header. A key is an object: some members are known for keys of
every kind, and each kind has members of its own, all of which have to be there.

* `algorithm`: the algorithm by which the service signs; `algorithms`: those that a token may name.
* `PublicKey.isKey`: whether the members of an object are those of a key.
* `PublicKey.read`: reads a key.
-/

namespace SessionAuth.Token

/-- The algorithm of the service: HMAC with SHA-256. -/
def algorithm : String := "HS256"

def algorithms : List String := [
  "HS256", "HS384", "HS512", "ES256", "ES384", "RS256", "RS384", "RS512", "PS256", "PS384",
  "PS512", "EdDSA"]

/-- The name itself, if it is one of some names. -/
def among (names : List String) (name : String) : Option String :=
  if names.contains name then some name else none

namespace PublicKey

/-- A member of an object: its name and the text of its value. -/
abbrev Member := String × List Char

/-- A member that is known, with the texts that its value may have. -/
structure Attribute where
  name : String
  accepts : List Char → Bool

def known {α : Type} (name : String) (reader : Json.Reader α) : Attribute where
  name := name
  accepts := fun cs => (Json.decode reader (String.ofList cs)).toOption.isSome

/-- A member that may be `null`. -/
def optional {α : Type} (name : String) (reader : Json.Reader α) : Attribute :=
  known name (Json.readOptional reader)

def text (name : String) : Attribute := known name Json.readText

def oneOf (name : String) (names : List String) : Attribute :=
  known name (Json.readUnitName (among names))

/-- The algorithms for which a key may be: those of signatures and some for encryption. -/
def keyAlgorithms : List String := algorithms ++ ["RSA1_5", "RSA-OAEP", "RSA-OAEP-256"]

def curves : List String := ["P-256", "P-384", "P-521", "Ed25519"]

def common : List Attribute := [
  optional "use" Json.readText, optional "key_ops" (Json.readList Json.readText),
  optional "alg" (Json.readNameOver Json.readNothing (among keyAlgorithms)),
  optional "kid" Json.readText, optional "x5u" Json.readText,
  optional "x5c" (Json.readList Json.readText), optional "x5t" Json.readText,
  optional "x5t#S256" Json.readText]

def kinds : List (List Attribute) := [
  [oneOf "kty" ["EC"], oneOf "crv" curves, text "x", text "y"],
  [oneOf "kty" ["RSA"], text "n", text "e"],
  [oneOf "kty" ["oct"], text "k"],
  [oneOf "kty" ["OKP"], oneOf "crv" curves, text "x"]]

/-- Whether a member is there once, with a value that it may have, or is missing where it may. -/
def Attribute.fits (a : Attribute) (mayMiss : Bool) (members : List Member) : Bool :=
  match members.filter (·.1 == a.name) with
  | [] => mayMiss
  | [member] => a.accepts member.2
  | _ => false

def isKey (members : List Member) : Bool :=
  common.all (·.fits true members) && kinds.any (·.all (·.fits false members))

def read : Json.Reader Unit := fun cs => do
  let value := Json.readSpan (Json.readValue (Json.maxDepth - 2))
  let (members, rest) ← Json.readEntriesWith value cs
  if isKey members then .ok ((), rest) else .error .mismatch

end PublicKey

end SessionAuth.Token
