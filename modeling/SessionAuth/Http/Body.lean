import SessionAuth.Http.MediaType
import SessionAuth.Json.Record

/-!
# The bodies of requests

A body is a JSON record of texts.

* `Request.texts`: the texts of a body under given names, or the response that refuses it.
-/

namespace SessionAuth.Http

def maxBody : Nat := 2097152

abbrev Texts := List (String × String)

/-- Reads a text from bytes, which have to be UTF-8. -/
def readTextBytes : Json.Reader String := fun cs => do
  let (_, rest) ← Json.readText cs
  match Json.ofByteChars? (cs.take (cs.length - rest.length)) with
  | some written => do
    let (text, _) ← Json.readText written.toList
    return (text, rest)
  | none => .error .malformed

def textField (name : String) : Json.Field Texts where
  name := name
  isSet := fun texts => (List.lookup name texts).isSome
  read := fun texts cs => do
    let (text, rest) ← readTextBytes cs
    return ((name, text) :: texts, rest)

/-- Reads a record of texts with the given names, in their order. -/
def readTexts (names : List String) : Json.Reader (List String) :=
  Json.readRecordWith (Json.readUtf8 Json.readQuoted) (names.map textField) [] fun texts =>
    names.mapM fun name => List.lookup name texts

def refused : Json.Fault → Response
  | .malformed => .plain 400 "Failed to parse the request body as JSON"
  | .mismatch => .plain 422 "Failed to deserialize the JSON body into the target type"

def Request.texts (r : Request) (names : List String) : Except Response (List String) :=
  if !r.hasJson then
    .error (.plain 415 "Expected request with `Content-Type: application/json`")
  else if maxBody < r.body.length then
    .error (.plain 413 "Failed to buffer the request body")
  else (Json.decodeBytes (readTexts names) r.body).mapError refused

end SessionAuth.Http
