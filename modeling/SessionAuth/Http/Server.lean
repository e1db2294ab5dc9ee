import SessionAuth.Config.Basic
import SessionAuth.Http.Route
import SessionAuth.Service.Run

/-!
# The server

A request goes through the rules on foreign origins, then through the deadline and then to its
route.

* `Cors.ofOrigins?`: the rules on foreign origins.
* `Server.ofConfig?`: the server for a configuration.
* `Server.respond`: the response to a request, and the system after it.
-/

namespace SessionAuth.Http

/-- The rules on foreign origins: the list of those whose pages may use the interface. -/
structure Cors where
  origins : List String
deriving DecidableEq, Repr

namespace Cors

/-- The rules for a list of origins. What cannot be the value of a header is passed over, and the
mark for any origin cannot stand in a list. -/
def ofOrigins? (origins : List String) : Option Cors :=
  let origins := origins.filter isHeaderValue
  if origins.contains "*" then none else some ⟨origins⟩

def headers (c : Cors) (r : Request) : List (String × String) :=
  [("access-control-allow-credentials", "true"),
    ("vary", "origin, access-control-request-method, access-control-request-headers")]
  ++ match r.value? "origin" with
    | some origin =>
      if c.origins.contains origin then [("access-control-allow-origin", origin)] else []
    | none => []

/-- The further headers on the response to a question about what is allowed. -/
def preflightHeaders : List (String × String) := [
  ("access-control-allow-methods", "GET,POST,DELETE,OPTIONS"),
  ("access-control-allow-headers", "authorization,content-type"),
  ("access-control-max-age", "3600")]

end Cors

/-- The response to a request that may not use its path with its method. -/
def notAllowed (route : Route) : Response :=
  (Response.empty 405).withHeaders [("allow", route.allowed)]

def preflight (route : Option Route) : Response :=
  (Response.empty 200).withHeaders
    (Cors.preflightHeaders ++ (route.map fun r => ("allow", r.allowed)).toList)

def dispatch (r : Request) : Flow Response :=
  if r.method = "OPTIONS" then pure (preflight (Route.ofPath? r.path))
  else
    match Route.ofPath? r.path with
    | none => pure (.empty 404)
    | some route =>
      if r.method = route.method then route.handle r
      else if r.method = "HEAD" ∧ route.method = "GET" then
        Response.withoutBody <$> route.handle r
      else pure (notAllowed route)

/-- A server. -/
structure Server where
  cors : Cors
deriving DecidableEq, Repr

namespace Server

/-- The server for a configuration, if its origins can be a list. -/
def ofConfig? (config : Config) : Option Server :=
  (Cors.ofOrigins? config.allowedOrigins).map fun cors => ⟨cors⟩

/-- The response when a call did not return before the deadline. -/
def timedOut : Response := .empty 408

/-- The response to a request under a plan for its calls. A call that never returns is cut off by
the deadline. -/
def respond (server : Server) (plan : Plan) (r : Request) (s : System) : Run Response :=
  let run := (dispatch r).run plan 0 s
  let ending : Ending Response := match run.ending with
    | .returned response => .returned (response.withHeaders (server.cors.headers r))
    | .hung => .returned (timedOut.withHeaders (server.cors.headers r))
    | .crashed => .crashed
  { run with ending }

end Server

end SessionAuth.Http
