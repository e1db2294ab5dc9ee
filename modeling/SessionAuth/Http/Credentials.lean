import SessionAuth.Http.Message
import SessionAuth.Text.Blank
import SessionAuth.Text.Split

/-!
# The token of a request

A request presents its token in the `Authorization` header after the word `Bearer`, or else in a
cookie.

* `Request.bearer?`: the token of the header.
* `Request.cookie?`: the value of a cookie.
* `Request.token?`: the token of a request, if it presents one.
-/

namespace SessionAuth.Http

/-- The value of a header, if it is text: visible ASCII characters, blanks and tabs. -/
def readable? (s : String) : Option String :=
  if s.toList.all fun c => (32 ≤ c.toNat && c.toNat < 127) || c == '\t' then some s else none

def bearerScheme : List Char := "bearer".toList

def authCookie : String := "auth_token"

namespace Request

/-- The token in the first `Authorization` header, if its scheme is `Bearer`. -/
def bearer? (r : Request) : Option String := do
  let value ← (r.value? "authorization").bind readable?
  let (scheme, rest) := value.toList.splitAt bearerScheme.length
  match rest with
  | ' ' :: token =>
    if scheme.map Char.toLower = bearerScheme then
      some (String.ofList (Text.trimStart token))
    else none
  | _ => none

def splitQuoted (quoted : Bool) : List Char → List (List Char)
  | [] => [[]]
  | c :: rest =>
    if c = ';' ∧ quoted = false then [] :: splitQuoted quoted rest
    else
      match splitQuoted (if c = '"' then !quoted else quoted) rest with
      | piece :: pieces => (c :: piece) :: pieces
      | [] => [[c]]

def splitCookie? (cs : List Char) : Option (List Char × List Char) :=
  (Text.splitFirst? '=' (Text.trimChars cs)).map fun p =>
    (Text.trimChars p.1, Text.trimChars p.2)

/-- The value of the first cookie with a name. Several headers count as one with semicolons
between their values. -/
def cookie? (r : Request) (name : String) : Option String := do
  let value ← readable? ("; ".intercalate (r.values "cookie"))
  let cookies := (splitQuoted false value.toList).filterMap splitCookie?
  let (_, value) ← cookies.find? fun p => p.1 == name.toList
  return String.ofList value

def token? (r : Request) : Option String :=
  r.bearer?.or ((r.cookie? authCookie).filter (!·.isEmpty))

end Request

end SessionAuth.Http
