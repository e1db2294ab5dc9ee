import SessionAuth.Http.Body
import SessionAuth.Service.Account
import SessionAuth.Wire.Encode

/-!
# Routes

Every path of the interface has one method. A route that acts for a caller first finds out who the
caller is and only then looks at the body.

* `Route`: the routes, with their paths and methods.
* `Route.handle`: what a route does with a request.
* `withCaller`: a handler that runs for an accepted caller only.
-/

namespace SessionAuth.Http

/-- The routes of the interface. -/
inductive Route where
  | health
  | login
  | logout
  | refresh
  | profile
  | register
  | changePassword
  | softDelete
deriving DecidableEq, Repr

namespace Route

def all : List Route :=
  [.health, .login, .logout, .refresh, .profile, .register, .changePassword, .softDelete]

def path : Route → String
  | .health => "/health"
  | .login => "/api/v1/auth/login"
  | .logout => "/api/v1/auth/logout"
  | .refresh => "/api/v1/auth/refresh"
  | .profile => "/api/v1/auth/me"
  | .register => "/api/v1/users"
  | .changePassword => "/api/v1/users/me/password"
  | .softDelete => "/api/v1/users/me"

def method : Route → String
  | .health | .profile => "GET"
  | .softDelete => "DELETE"
  | .login | .logout | .refresh | .register | .changePassword => "POST"

/-- The methods that a route answers, as a header states them. -/
def allowed (r : Route) : String := if r.method = "GET" then "GET,HEAD" else r.method

def ofPath? (path : String) : Option Route := all.find? (·.path == path)

end Route

def respond {α : Type} (render : α → Response) : Except ServiceError α → Response
  | .ok a => render a
  | .error e => .ofError e

def perform {α : Type} (op : Operation α) (render : α → Response) : Flow Response :=
  respond render <$> ExceptT.run op

/-- Goes on with the caller of a request, once the token has been accepted. -/
def withCaller (r : Request) (next : Caller → Flow Response) : Flow Response :=
  match r.token? with
  | none => pure .unauthorized
  | some token => do
    match ← ExceptT.run (Service.validate token) with
    | .ok caller => next caller
    | .error e => pure (.ofError e)

def withTexts (r : Request) (names : List String) (next : List String → Flow Response) :
    Flow Response :=
  match r.texts names with
  | .ok texts => next texts
  | .error response => pure response

def Route.handle (r : Request) : Route → Flow Response
  | .health => pure (.json 200 (.object [("status", .string "ok")]))
  | .login => withTexts r ["username", "password"] fun texts =>
    perform (Service.login (texts.getD 0 "") (texts.getD 1 "")) fun result =>
      .json 200 result.toJson
  | .logout => withCaller r fun caller =>
    perform (Service.logout caller.id) fun _ => .empty 204
  | .refresh => withTexts r ["refresh_token"] fun texts =>
    perform (Service.refresh (texts.getD 0 "")) fun tokens => .json 200 tokens.toJson
  | .profile => withCaller r fun caller =>
    perform (Service.profile caller) fun profile => .json 200 profile.toJson
  | .register => withTexts r ["username", "name", "email", "password"] fun texts =>
    let registration : Service.Registration :=
      ⟨texts.getD 0 "", texts.getD 1 "", texts.getD 2 "", texts.getD 3 ""⟩
    perform (Service.register registration) fun user => .json 201 user.toJson
  | .changePassword => withCaller r fun caller =>
    withTexts r ["current_password", "new_password"] fun texts =>
      perform (Service.changePassword caller (texts.getD 0 "") (texts.getD 1 "")) fun tokens =>
        .json 200 tokens.toJson
  | .softDelete => withCaller r fun caller =>
    perform (Service.softDelete caller) fun _ => .empty 204

end SessionAuth.Http
