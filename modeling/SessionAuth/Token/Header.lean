import SessionAuth.Json.Record
import SessionAuth.Token.PublicKey

/-!
# Token headers

The header of a token is a JSON object that names the algorithm of its signature. Other known
fields have to be of their type, no known field may repeat, and unknown fields are passed over,
even where their values are not UTF-8.

* `Header.text`: the header of the tokens that the service signs.
* `Header.algorithm?`: the algorithm that a header names.
-/

namespace SessionAuth.Token

namespace Header

def text : String :=
  "\x7b\"typ\":\"JWT\",\"alg\":\"" ++ algorithm ++ "\"\x7d"

/-- What has been read of a header. -/
structure Draft where
  seen : List String
  algorithm : Option String

/-- A field of a header whose value does not matter, if it has the right type. -/
def typed {α : Type} (name : String) (reader : Json.Reader α) : Json.Field Draft where
  name := name
  isSet := fun d => d.seen.contains name
  read := fun d cs => do
    let (_, cs) ← Json.readUtf8 (Json.readOptional reader) cs
    return ({ d with seen := name :: d.seen }, cs)

def algorithmField : Json.Field Draft where
  name := "alg"
  isSet := fun d => d.seen.contains "alg"
  read := fun d cs => do
    let (a, cs) ← Json.readUnitName (among algorithms) cs
    return (⟨"alg" :: d.seen, some a⟩, cs)

def fields : List (Json.Field Draft) := [
  typed "typ" Json.readText, algorithmField, typed "cty" Json.readText,
  typed "jku" Json.readText, typed "jwk" PublicKey.read, typed "kid" Json.readText,
  typed "x5u" Json.readText, typed "x5c" (Json.readList Json.readText),
  typed "x5t" Json.readText, typed "x5t#S256" Json.readText]

def algorithm? (bytes : List UInt8) : Option String :=
  let key := Json.readUtf8 Json.readQuoted
  let reader := Json.readRecordWith key fields ⟨[], none⟩ Draft.algorithm
  (Json.decodeBytes reader bytes).toOption

end Header

end SessionAuth.Token
