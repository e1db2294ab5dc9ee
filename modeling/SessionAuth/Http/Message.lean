import SessionAuth.Error
import SessionAuth.Http.Target
import SessionAuth.Json.Printer
import SessionAuth.Text.Digits

/-!
# Requests and responses

* `Http.Request`, `Http.Response`: the messages.
* `Http.Request.ofParts?`: the request with given parts, if they can be those of one.
* `Http.Response.json`, `Http.Response.plain`, `Http.Response.empty`: responses by what they hold.
* `Http.Response.ofError`: the response to an error. Every reason to turn a caller away looks the
  same from outside, and so does every failure that no caller is to blame for.
-/

namespace SessionAuth.Http

/-- The characters of methods, of the names of headers and of media types. -/
def isTokenChar (c : Char) : Bool := c.isAlphanum || "!#$%&'*+-.^_\x60|~".toList.contains c

def isToken (s : String) : Bool := !s.isEmpty && s.toList.all isTokenChar

def isHeaderValue (s : String) : Bool :=
  s.toList.all fun c => (32 ≤ c.toNat && c.toNat != 127) || c == '\t'

/-- A request. The names of headers may be in any case. -/
structure Request where
  method : String
  path : String
  headers : List (String × String)
  body : List UInt8
deriving Repr

namespace Request

/-- The values of a header, in their order. The name is in small letters. -/
def values (r : Request) (name : String) : List String :=
  (r.headers.filter fun h => h.1.toLower == name).map Prod.snd

def value? (r : Request) (name : String) : Option String := (r.values name).head?

/-- The request with a method, a target, headers and a body, if they can be those of one. -/
def ofParts? (method target : String) (headers : List (String × String)) (body : List UInt8) :
    Option Request := do
  let path ← targetPath? target
  if isToken method && headers.all fun h => isToken h.1 && isHeaderValue h.2 then
    some ⟨method, path, headers, body⟩
  else none

end Request

/-- A response. The names of headers are in small letters. -/
structure Response where
  status : Nat
  headers : List (String × String)
  body : String
deriving DecidableEq, Repr

def reason : Nat → String
  | 400 => "Bad Request"
  | 401 => "Unauthorized"
  | 404 => "Not Found"
  | 409 => "Conflict"
  | 500 => "Internal Server Error"
  | _ => "error"

namespace Response

def empty (status : Nat) : Response := ⟨status, [], ""⟩

def json (status : Nat) (body : Json) : Response :=
  ⟨status, [("content-type", "application/json")], body.print⟩

def plain (status : Nat) (text : String) : Response :=
  ⟨status, [("content-type", "text/plain; charset=utf-8")], text⟩

def failure (status : Nat) (message : String) : Response :=
  json status (.object [("error", .string (reason status)), ("message", .string message)])

def unauthorized : Response := failure 401 "unauthorized"

/-- The response to a failure that no caller is to blame for. -/
def internal : Response := failure 500 "internal server error"

def ofDomainError : DomainError → Response
  | .validation text => failure 400 text
  | .conflict text => failure 409 text
  | .notFound text => failure 404 text
  | .persistence _ => internal

def ofError : ServiceError → Response
  | .auth _ => unauthorized
  | .validation text => failure 400 text
  | .notFound text => failure 404 text
  | .conflict text => failure 409 text
  | .infrastructure _ => internal
  | .domain e => ofDomainError e

def withoutBody (r : Response) : Response := { r with body := "" }

def withHeaders (r : Response) (headers : List (String × String)) : Response :=
  { r with headers := r.headers ++ headers }

end Response

end SessionAuth.Http
