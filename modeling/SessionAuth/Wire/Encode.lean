import SessionAuth.Json.Printer
import SessionAuth.Service.View
import SessionAuth.Session.Basic
import SessionAuth.Time.Rfc3339

/-!
# Results as JSON

The members of an object stand in the order of the fields, and an absent value is `null`.

* `UserView.toJson`, `TokenPair.toJson`, `LoginResult.toJson`, `Profile.toJson`.
-/

namespace SessionAuth

def Instant.toJson (t : Instant) : Json := .string t.text

def Json.optional {α : Type} (f : α → Json) : Option α → Json
  | some a => f a
  | none => .null

namespace Wire

def tokenFields (p : TokenPair) : Json.Fields := [
  ("access_token", .string p.access), ("refresh_token", .string p.refresh)]

end Wire

def TokenPair.toJson (p : TokenPair) : Json := .object (Wire.tokenFields p)

def UserView.toJson (u : UserView) : Json := .object [
  ("id", .int u.id), ("username", .string u.username), ("name", .string u.name),
  ("email", .string u.email), ("role", .string u.role.name),
  ("created_at", u.createdAt.toJson)]

/-- The result of a login as JSON, the tokens beside the account. -/
def LoginResult.toJson (r : LoginResult) : Json :=
  .object (("user", r.user.toJson) :: Wire.tokenFields r.tokens)

def Profile.toJson (p : Profile) : Json := .object [
  ("user", p.user.toJson), ("roles", .array (p.roles.map .string)),
  ("expires_at", Json.optional Instant.toJson p.expiresAt),
  ("expires_in", Json.optional Json.int p.expiresIn)]

end SessionAuth
