import SessionAuth.Text.Digits
import SessionAuth.Text.Split
import SessionAuth.Url.Host
import SessionAuth.Url.Path

/-!
# URLs

A URL is a scheme and a path. In front of the path there may be a host with a user and a number,
behind it a query and a fragment. Schemes that have rules of their own are not treated here.

* `Url`: the parts of a URL that are looked at.
* `Url.ofText?`: the URL that a text spells.
-/

namespace SessionAuth

/-- A URL. User, password and query stand as they are written, without what sets them off. -/
structure Url where
  scheme : String
  user : List Char
  password : List Char
  host : Option Url.Host
  /-- The number under which the host listens. -/
  number : Option Nat
  path : Url.Path
  query : List Char
deriving DecidableEq, Repr

namespace Url

/-- Splits a text before the first character of a set. -/
def splitBefore (stops : String) (cs : List Char) : List Char × List Char :=
  cs.span fun c => !stops.toList.contains c

/-- A text without blanks and control characters at its ends and without line ends and tabs. -/
def cleaned (cs : List Char) : List Char :=
  let outer := fun (c : Char) => c.toNat ≤ 32
  (((cs.dropWhile outer).reverse.dropWhile outer).reverse).filter fun c =>
    c != '\t' && c != '\n' && c != '\r'

def isSchemeChar (c : Char) : Bool := c.isAlphanum || c == '+' || c == '-' || c == '.'

/-- The scheme of a URL in small letters, and what comes after its colon. -/
def scheme? (cs : List Char) : Option (String × List Char) := do
  let (scheme, rest) ← Text.splitFirst? ':' cs
  if scheme.head?.any Char.isAlpha && scheme.all isSchemeChar then
    some (String.ofList (scheme.map Char.toLower), rest)
  else none

/-! ## The authority -/

/-- What stands between two slashes and the path: a user, a host and the number under which it
listens. -/
structure Authority where
  user : List Char
  password : List Char
  host : Option Host
  number : Option Nat
  /-- What follows the number, with which the path begins. -/
  rest : List Char

def splitUser? (cs : List Char) : Option (List Char × List Char) :=
  let host := (cs.reverse.takeWhile (· != '@')).reverse
  if host.length < cs.length then some (cs.take (cs.length - host.length - 1), host) else none

/-- Splits a text before its first colon outside brackets. A closing bracket closes all that are
open, and `inside` tells whether one is. -/
def splitHost (inside : Bool) : List Char → List Char × List Char
  | [] => ([], [])
  | c :: rest =>
    if c = ':' ∧ inside = false then ([], c :: rest)
    else
      let (host, rest) := splitHost (c = '[' ∨ (inside ∧ c ≠ ']')) rest
      (c :: host, rest)

/-- The number after a host and what follows it. Only a backslash may follow. -/
def number? : List Char → Option (Option Nat × List Char)
  | [] => some (none, [])
  | _ :: cs =>
    let (digits, rest) := cs.span Char.isDigit
    if !(rest.isEmpty || rest.head? == some '\\') then none
    else if digits.isEmpty then some (none, rest)
    else ((Text.readDigits? digits).filter (· < 65536)).map fun n => (some n, rest)

/-- The host and the number that a text spells. There is no number without a host. -/
def place? (cs : List Char) : Option (Option Host × Option Nat × List Char) :=
  match splitHost false cs with
  | ([], []) => some (none, none, [])
  | ([], _) => none
  | (host, rest) => do
    let host ← Host.ofText? host
    let (number, rest) ← number? rest
    return (some host, number, rest)

/-- The authority that a text spells. A user is one of a host. -/
def authority? (cs : List Char) : Option Authority := do
  let (user, place) := (splitUser? cs).getD ([], cs)
  let (user, password) := splitBefore ":" user
  let (host, number, rest) ← place? place
  if host.isNone && !(user.isEmpty && password.tail.isEmpty) then none
  else return ⟨user, password.tail, host, number, rest⟩

/-! ## The whole -/

def ofText? (text : String) : Option Url := do
  let (scheme, rest) ← scheme? (cleaned text.toList)
  let (rest, _) := splitBefore "#" rest
  let (rest, query) := splitBefore "?" rest
  match rest with
  | '/' :: '/' :: rest =>
    let (place, path) := splitBefore "/" rest
    -- An at sign alone announces a host.
    if place = ['@'] then none
    else
      let a ← authority? place
      let path := Path.ofText (a.rest ++ path)
      return ⟨scheme, a.user, a.password, a.host, a.number, path, query.tail⟩
  | '/' :: rest => return ⟨scheme, [], [], none, none, .ofText ('/' :: rest), query.tail⟩
  | _ => return ⟨scheme, [], [], none, none, ⟨[]⟩, query.tail⟩

end Url

end SessionAuth
