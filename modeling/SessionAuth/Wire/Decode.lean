import SessionAuth.Json.Record
import SessionAuth.Wire.Encode

/-!
# Results read from JSON

* `UserView.read`, `TokenPair.read`, `LoginResult.read`, `Profile.read`: readers of the results of
  operations.
* `Wire.readId`, `Wire.readRole`, `Wire.readKind`: readers of their parts.
-/

namespace SessionAuth

open Json (Reader Fault)

namespace Wire

def readId : Reader Nat := fun cs => do
  let (n, rest) ← Json.readBounded 0 maxNat64 cs
  return (n.toNat, rest)

def readRole : Reader Role := Json.readUnitName Role.ofName?

def readKind : Reader TokenKind := Json.readUnitName TokenKind.ofName?

def readInstant : Reader Instant := Json.readNamed Instant.ofText?

/-- A field that is stored in an optional place of the record under construction. -/
def field {σ α : Type} (name : String) (get : σ → Option α) (set : α → σ → σ)
    (reader : Reader α) : Json.Field σ where
  name := name
  isSet := fun s => (get s).isSome
  read := fun s cs => do
    let (a, rest) ← reader cs
    return (set a s, rest)

end Wire

open Wire

/-! ## Pairs of tokens -/

/-- A pair of tokens under construction. -/
structure TokenPair.Draft where
  access : Option String
  refresh : Option String

def TokenPair.fields : List (Json.Field TokenPair.Draft) := [
  field "access_token" (·.access) (fun a d => { d with access := some a }) Json.readText,
  field "refresh_token" (·.refresh) (fun a d => { d with refresh := some a }) Json.readText]

def TokenPair.Draft.finish (d : TokenPair.Draft) : Option TokenPair := do
  return ⟨← d.access, ← d.refresh⟩

def TokenPair.read : Reader TokenPair :=
  Json.readRecord TokenPair.fields ⟨none, none⟩ TokenPair.Draft.finish

/-! ## Accounts -/

/-- An account under construction. -/
structure UserView.Draft where
  id : Option Nat
  username : Option String
  name : Option String
  email : Option String
  role : Option Role
  createdAt : Option Instant

def UserView.fields : List (Json.Field UserView.Draft) := [
  field "id" (·.id) (fun a d => { d with id := some a }) readId,
  field "username" (·.username) (fun a d => { d with username := some a }) Json.readText,
  field "name" (·.name) (fun a d => { d with name := some a }) Json.readText,
  field "email" (·.email) (fun a d => { d with email := some a }) Json.readText,
  field "role" (·.role) (fun a d => { d with role := some a }) readRole,
  field "created_at" (·.createdAt) (fun a d => { d with createdAt := some a }) readInstant]

def UserView.Draft.finish (d : UserView.Draft) : Option UserView := do
  return ⟨← d.id, ← d.username, ← d.name, ← d.email, ← d.role, ← d.createdAt⟩

def UserView.read : Reader UserView :=
  Json.readRecord UserView.fields ⟨none, none, none, none, none, none⟩ UserView.Draft.finish

/-! ## Logins -/

/-- The result of a login under construction, with the members beside the account. -/
structure LoginResult.Draft where
  user : Option UserView
  others : List (String × Json)

def Wire.single? (entries : List (String × Json)) (key : String) : Option Json :=
  match entries.filter (·.1 == key) with
  | [(_, value)] => some value
  | _ => none

def Wire.singleText? (entries : List (String × Json)) (key : String) : Option String :=
  (single? entries key).bind Json.string?

/-- Reads a member: the account, once, or any other value, which is kept. -/
def LoginResult.readMember (d : LoginResult.Draft) (key : String) : Reader LoginResult.Draft :=
  fun cs =>
    if key = "user" then
      if d.user.isSome then .error .mismatch
      else do
        let (user, rest) ← UserView.read (← Json.readColon cs)
        return ({ d with user := some user }, rest)
    else do
      let (value, rest) ← Json.readValue (Json.maxDepth - 1) (← Json.readColon cs)
      return ({ d with others := (key, value) :: d.others }, rest)

def LoginResult.Draft.finish (d : LoginResult.Draft) : Option LoginResult := do
  let access ← singleText? d.others "access_token"
  let refresh ← singleText? d.others "refresh_token"
  return ⟨← d.user, ⟨access, refresh⟩⟩

/-- Reads the result of a login. It is written as an object only. -/
def LoginResult.read : Reader LoginResult := fun cs =>
  match Json.skipBlank cs with
  | '{' :: rest => do
    let (d, rest) ← Json.readObject Json.readQuoted LoginResult.readMember ⟨none, []⟩ rest
    Json.finishRecord LoginResult.Draft.finish d rest
  | cs => Json.refuse cs

/-! ## Profiles -/

/-- A profile under construction. -/
structure Profile.Draft where
  user : Option UserView
  roles : Option (List String)
  expiresAt : Option (Option Instant)
  expiresIn : Option (Option Int)

def Profile.fields : List (Json.Field Profile.Draft) := [
  field "user" (·.user) (fun a d => { d with user := some a }) UserView.read,
  field "roles" (·.roles) (fun a d => { d with roles := some a }) (Json.readList Json.readText),
  field "expires_at" (·.expiresAt) (fun a d => { d with expiresAt := some a })
    (Json.readOptional readInstant),
  field "expires_in" (·.expiresIn) (fun a d => { d with expiresIn := some a })
    (Json.readOptional (Json.readBounded minInt64 maxInt64))]

/-- The finished profile. The times may be missing. -/
def Profile.Draft.finish (d : Profile.Draft) : Option Profile := do
  return ⟨← d.user, ← d.roles, d.expiresAt.getD none, d.expiresIn.getD none⟩

def Profile.read : Reader Profile :=
  Json.readRecord Profile.fields ⟨none, none, none, none⟩ Profile.Draft.finish

end SessionAuth
