import SessionAuth.Base64
import SessionAuth.Hash.Sha256
import SessionAuth.Json.Parts
import SessionAuth.Json.Printer
import SessionAuth.Text.Blank
import SessionAuth.Token.Claims
import SessionAuth.Token.Header

/-!
# Signed tokens

A token is three segments in Base64 with dots between them: the header, the claims and the
signature of the first two under a secret key.

* `sign`: the token for a set of claims.
* `open?`: the claims of a token that the key has signed.
* `splitToken?`: the three segments.
* `bareToken`: a token as it is presented, perhaps with white space around it and with the word
  `Bearer` and a blank in front, in any case of letters.
-/

namespace SessionAuth

namespace Token

def segment (bytes : List UInt8) : List Char := Base64.encode Base64.urlSafe bytes

def segmentBytes? (cs : List Char) : Option (List UInt8) := Base64.decode? Base64.urlSafe cs

def segmentText? (cs : List Char) : Option String := (segmentBytes? cs).bind Hash.ofUtf8?

/-- The signature of a text under a key, as a segment. -/
def signature (key : List UInt8) (message : List Char) : List Char :=
  segment (Hash.hmacSha256 key (Hash.utf8 (String.ofList message)))

/-- The first two segments of the token for a set of claims. -/
def message (claims : Claims) : List Char :=
  segment (Hash.utf8 Header.text) ++ '.' :: segment (Hash.utf8 (Json.object claims).print)

def sign (key : List UInt8) (claims : Claims) : String :=
  String.ofList (message claims ++ '.' :: signature key (message claims))

def splitLastDot? (cs : List Char) : Option (List Char × List Char) :=
  let after := cs.reverse.takeWhile (· != '.')
  match cs.reverse.dropWhile (· != '.') with
  | _ :: before => some (before.reverse, after.reverse)
  | [] => none

/-- The header, the claims and the signature of a token: it is split at its last two dots. -/
def splitToken? (cs : List Char) : Option (List Char × List Char × List Char) := do
  let (message, signature) ← splitLastDot? cs
  let (header, claims) ← splitLastDot? message
  return (header, claims, signature)

def registered : List String :=
  [Claims.expiryKey, "nbf", Claims.subjectKey, "iss", "aud"]

def isContainer : Json → Bool
  | .array _ => true
  | .object _ => true
  | _ => false

def isFilled : Json → Bool
  | .array items => !items.isEmpty
  | .object fields => !fields.isEmpty
  | _ => false

/-- Whether a registered claim can stand where it stands. Times may not be containers that hold
something, and the subject may not be a container at all. -/
def placeable (entry : String × Json) : Bool :=
  if entry.1 = Claims.subjectKey then !isContainer entry.2
  else if entry.1 = Claims.expiryKey ∨ entry.1 = "nbf" then !isFilled entry.2
  else true

/-- Whether the members of a payload are claims: no registered one repeats, and each of them can
stand where it stands. -/
def wellFormed (entries : List (String × Json)) : Bool :=
  registered.all (fun key => (entries.filter (·.1 == key)).length ≤ 1) && entries.all placeable

def claimsOf? (text : String) : Option Claims := do
  let entries ← Json.entries? text
  if wellFormed entries then some (Json.Fields.ofList entries) else none

/-- The claims of a token that was signed with the key by the algorithm of the service. -/
def open? (key : List UInt8) (token : String) : Option Claims := do
  let (header, claims, sign) ← splitToken? token.toList
  let name ← Header.algorithm? (← segmentBytes? header)
  if name = algorithm ∧ sign = signature key (header ++ '.' :: claims) then
    claimsOf? (← segmentText? claims)
  else none

end Token

/-! ## Presented tokens -/

/-- The word in front of a token, in small letters, with its blank. -/
def bearerWord : List Char := "bearer ".toList

/-- Whether a text begins with the word, in any case of letters. -/
def hasBearerWord (cs : List Char) : Bool :=
  (cs.take bearerWord.length).map Char.toLower == bearerWord

/-- The characters of a token without what may stand around them. -/
def bareChars (cs : List Char) : List Char :=
  let cs := Text.trimChars cs
  if hasBearerWord cs then Text.trimChars (cs.drop bearerWord.length) else cs

/-- A presented token without what may stand around it. -/
def bareToken (raw : String) : String := String.ofList (bareChars raw.toList)

end SessionAuth
