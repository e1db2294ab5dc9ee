import SessionAuth.Proofs.Config.Origins
import SessionAuth.Proofs.Http.Gate

/-!
# Foreign origins

A configuration lists the origins whose pages may use the interface. A response then names the
origin of its request if it is one of them, and it names no other. The mark for any origin is taken
for an origin when a configuration is read, and no server can be had for it.

* `Flow.Yields`: what all results of a flow have in common.
* `Response.origins`: the origins that a response names.
* `yields_dispatch`: only the rules on foreign origins make a response name one.
* `AnswersOrigin`: a response names the origins that a look-up configures.
* `served_unless_wildcard`: the main statement.
-/

namespace SessionAuth

/-! ## Results of a flow -/

namespace Flow

variable {α β : Type} {post : β → Prop}

/-- All results are as stated, whatever is called and whatever is answered. -/
structure Yields (post : β → Prop) (x : Flow β) : Prop where
  only : x.Only (fun _ => True) post

theorem yields_pure {b : β} (h : post b) : (pure b : Flow β).Yields post := ⟨h⟩

theorem yields_any (x : Flow α) : x.Yields fun _ => True := by
  induction x with
  | done a => exact ⟨trivial⟩
  | call c next ih => exact ⟨trivial, fun answer => (ih answer).only⟩

theorem Yields.bind {mid : α → Prop} {x : Flow α} {f : α → Flow β} (hx : x.Yields mid)
    (h : ∀ a, mid a → (f a).Yields post) : (x >>= f).Yields post := by
  induction x with
  | done a => exact h a hx.only
  | call c next ih => exact ⟨trivial, fun answer => (ih answer ⟨hx.only.2 answer⟩).only⟩

theorem Yields.map {mid : α → Prop} {x : Flow α} {f : α → β} (hx : x.Yields mid)
    (h : ∀ a, mid a → post (f a)) : (f <$> x).Yields post := by
  rw [map_eq_pure_bind]
  exact hx.bind fun a ha => yields_pure (h a ha)

theorem Yields.of_returned {x : Flow β} (h : x.Yields post) {plan : Plan} {n : Nat} {s : System}
    {b : β} (hending : (x.run plan n s).ending = .returned b) : post b :=
  h.only.of_returned hending

end Flow

namespace Http

open SessionAuth.Flow (yields_pure yields_any)

/-! ## Responses without the rules on foreign origins -/

namespace Response

/-- The origins whose pages may read the response, as its headers name them. -/
def origins (response : Response) : List String :=
  (response.headers.filter fun h => h.1 == "access-control-allow-origin").map Prod.snd

/-- The response names no origin. -/
def Unnamed (response : Response) : Prop := response.origins = []

theorem origins_withHeaders (response : Response) (headers : List (String × String)) :
    (response.withHeaders headers).origins =
      response.origins ++ (Response.mk 0 headers "").origins := by
  simp [origins, withHeaders]

theorem unnamed_empty (status : Nat) : (empty status).Unnamed := rfl

theorem unnamed_json (status : Nat) (body : Json) : (json status body).Unnamed := by
  simp [Unnamed, origins, json]

theorem unnamed_plain (status : Nat) (text : String) : (plain status text).Unnamed := by
  simp [Unnamed, origins, plain]

theorem unnamed_ofError (e : ServiceError) : (ofError e).Unnamed := by
  cases e with
  | domain e => cases e <;> exact unnamed_json _ _
  | _ => exact unnamed_json _ _

end Response

open Response (Unnamed unnamed_empty unnamed_json unnamed_plain unnamed_ofError)

section Handlers

variable (r : Request)

theorem yields_perform {α : Type} (op : Operation α) {render : α → Response}
    (h : ∀ a, (render a).Unnamed) : (perform op render).Yields Unnamed := by
  refine (yields_any _).map fun result _ => ?_
  cases result with
  | ok a => exact h a
  | error e => exact unnamed_ofError e

theorem yields_withCaller {next : Caller → Flow Response}
    (h : ∀ caller, (next caller).Yields Unnamed) : (withCaller r next).Yields Unnamed := by
  rw [withCaller]
  split
  · exact yields_pure (unnamed_json _ _)
  · refine (yields_any _).bind fun result _ => ?_
    cases result with
    | ok caller => exact h caller
    | error e => exact yields_pure (unnamed_ofError e)

theorem unnamed_of_texts {names : List String} {response : Response}
    (h : r.texts names = .error response) : response.Unnamed := by
  rw [Request.texts] at h
  split at h
  · exact Except.error.inj h ▸ unnamed_plain _ _
  split at h
  · exact Except.error.inj h ▸ unnamed_plain _ _
  cases hdecode : Json.decodeBytes (readTexts names) r.body with
  | ok texts =>
    rw [hdecode] at h
    cases h
  | error fault =>
    rw [hdecode] at h
    obtain rfl := Except.error.inj h
    cases fault <;> exact unnamed_plain _ _

theorem yields_withTexts (names : List String) {next : List String → Flow Response}
    (h : ∀ texts, (next texts).Yields Unnamed) : (withTexts r names next).Yields Unnamed := by
  rw [withTexts]
  split
  · exact h _
  · exact yields_pure (unnamed_of_texts r ‹_›)

theorem yields_handle (route : Route) : (route.handle r).Yields Unnamed := by
  cases route with
  | health => exact yields_pure (unnamed_json _ _)
  | login | refresh | register =>
    exact yields_withTexts r _ fun _ => yields_perform _ fun _ => unnamed_json _ _
  | profile => exact yields_withCaller r fun _ => yields_perform _ fun _ => unnamed_json _ _
  | logout | softDelete =>
    exact yields_withCaller r fun _ => yields_perform _ fun _ => unnamed_empty _
  | changePassword =>
    exact yields_withCaller r fun _ => yields_withTexts r _ fun _ =>
      yields_perform _ fun _ => unnamed_json _ _

theorem unnamed_preflight (route : Option Route) : (preflight route).Unnamed := by
  cases route <;> simp [Unnamed, preflight, Response.origins, Response.withHeaders,
    Response.empty, Cors.preflightHeaders]

theorem unnamed_notAllowed (route : Route) : (notAllowed route).Unnamed := by
  simp [Unnamed, notAllowed, Response.origins, Response.withHeaders, Response.empty]

/-- **No route names an origin by itself.** -/
theorem yields_dispatch : (dispatch r).Yields Unnamed := by
  rw [dispatch]
  split
  · exact yields_pure (unnamed_preflight _)
  split
  · exact yields_pure (unnamed_empty _)
  split
  · exact yields_handle r _
  split
  · exact (yields_handle r _).map fun _ h => h
  · exact yields_pure (unnamed_notAllowed _)

end Handlers

/-! ## The rules on foreign origins -/

section Rules

variable {lookup : String → Option String} {config : Config}

theorem Cors.ofOrigins?_eq_none_iff {origins : List String} :
    Cors.ofOrigins? origins = none ↔ "*" ∈ origins := by
  have hvalue : isHeaderValue "*" = true := by decide
  unfold Cors.ofOrigins?
  simp [hvalue]

theorem Cors.mem_of_ofOrigins? {origins : List String} {cors : Cors} {origin : String}
    (h : Cors.ofOrigins? origins = some cors) :
    origin ∈ cors.origins ↔ origin ∈ origins ∧ isHeaderValue origin = true := by
  unfold Cors.ofOrigins? at h
  dsimp only at h
  split at h
  · cases h
  · obtain rfl := Option.some.inj h
    exact List.mem_filter

/-- A configuration has no server just if the mark for any origin is among its origins. -/
theorem Server.ofConfig?_eq_none_iff (h : Config.ofLookup lookup = .ok config) :
    Server.ofConfig? config = none ↔ Config.Configures lookup "*" := by
  rw [Server.ofConfig?, Option.map_eq_none_iff, Cors.ofOrigins?_eq_none_iff,
    Config.mem_allowedOrigins_iff h]

/-- The origin is configured, and it can be the value of a header. -/
def Welcome (lookup : String → Option String) (origin : String) : Prop :=
  Config.Configures lookup origin ∧ isHeaderValue origin = true

theorem Server.mem_origins_iff {server : Server} {origin : String}
    (h : Config.ofLookup lookup = .ok config) (hserver : Server.ofConfig? config = some server) :
    origin ∈ server.cors.origins ↔ Welcome lookup origin := by
  obtain ⟨cors, hcors, rfl⟩ := Option.map_eq_some_iff.mp hserver
  rw [Cors.mem_of_ofOrigins? hcors, Config.mem_allowedOrigins_iff h, Welcome]

instance (lookup : String → Option String) (origin : String) :
    Decidable (Welcome lookup origin) := instDecidableAnd

/-- The response names the origin of its request if that is welcome, and no other origin ever. -/
structure AnswersOrigin (lookup : String → Option String) (r : Request) (response : Response) :
    Prop where
  named : ∀ origin, r.value? "origin" = some origin → Welcome lookup origin →
    response.origins = [origin]
  unnamed : (∀ origin, r.value? "origin" = some origin → ¬ Welcome lookup origin) →
    response.origins = []

theorem Cors.origins_headers (cors : Cors) (r : Request) :
    (Response.mk 0 (cors.headers r) "").origins =
      ((r.value? "origin").filter cors.origins.contains).toList := by
  unfold Cors.headers Response.origins
  cases r.value? "origin" with
  | none => simp
  | some origin => by_cases hmem : origin ∈ cors.origins <;> simp [Option.filter, hmem]

theorem answersOrigin_withHeaders {server : Server} {r : Request} {response : Response}
    (h : Config.ofLookup lookup = .ok config) (hserver : Server.ofConfig? config = some server)
    (hresponse : response.Unnamed) :
    AnswersOrigin lookup r (response.withHeaders (server.cors.headers r)) := by
  have horigins : (response.withHeaders (server.cors.headers r)).origins =
      ((r.value? "origin").filter server.cors.origins.contains).toList := by
    rw [Response.origins_withHeaders, hresponse, List.nil_append, Cors.origins_headers]
  refine ⟨fun origin hvalue hwelcome => ?_, fun hnone => ?_⟩
  · have hmem := (Server.mem_origins_iff h hserver).mpr hwelcome
    rw [horigins, hvalue, Option.filter_some, if_pos (List.contains_iff_mem.mpr hmem)]
    rfl
  · rw [horigins]
    cases hvalue : r.value? "origin" with
    | none => rfl
    | some origin =>
      have hmem : ¬ server.cors.origins.contains origin = true := fun hcontains =>
        hnone origin hvalue ((Server.mem_origins_iff h hserver).mp
          (List.contains_iff_mem.mp hcontains))
      rw [Option.filter_some, if_neg hmem]
      rfl

/-- **A configuration is served unless it has the mark for any origin among its origins.** Its
server then answers a request, whatever comes of the calls, with a response that names the origin
of the request just if the origin is configured and can be the value of a header. Only a route that
crashes has no response. -/
theorem served_unless_wildcard (h : Config.ofLookup lookup = .ok config) :
    (Server.ofConfig? config = none ↔ Config.Configures lookup "*") ∧
    ∀ server, Server.ofConfig? config = some server → ∀ plan r s,
      (∃ response, (server.respond plan r s).ending = .returned response ∧
        AnswersOrigin lookup r response) ∨
      (server.respond plan r s).ending = .crashed ∧
        ((dispatch r).run plan 0 s).ending = .crashed := by
  refine ⟨Server.ofConfig?_eq_none_iff h, fun server hserver plan r s => ?_⟩
  rw [Server.respond_eq_finish, Server.finish]
  cases hending : ((dispatch r).run plan 0 s).ending with
  | returned response =>
    have hunnamed := (yields_dispatch r).of_returned hending
    exact Or.inl ⟨_, rfl, answersOrigin_withHeaders h hserver hunnamed⟩
  | hung => exact Or.inl ⟨_, rfl, answersOrigin_withHeaders h hserver (unnamed_empty 408)⟩
  | crashed => exact Or.inr ⟨rfl, rfl⟩

end Rules

/-! ## Two lists of origins -/

/-- A look-up that gives a secret and a text for the origins, and nothing else. -/
def listing (text : String) (name : String) : Option String :=
  if name = Config.secretName then some "0123456789abcdef0123456789abcdef"
  else if name = Config.originsName then some text
  else none

theorem exists_config (text : String) : ∃ config, Config.ofLookup (listing text) = .ok config := by
  have hsecret : Config.readSecret (listing text) = .ok "0123456789abcdef0123456789abcdef" := by
    rfl
  have hseconds : ∀ name default, name ≠ Config.secretName → name ≠ Config.originsName →
      Config.seconds (listing text) name default = .ok default := by
    intro name default hsecret horigins
    rw [Config.seconds, Config.present, listing, if_neg hsecret, if_neg horigins]
    rfl
  unfold Config.ofLookup
  rw [hsecret, hseconds _ _ (by decide) (by decide), hseconds _ _ (by decide) (by decide),
    hseconds _ _ (by decide) (by decide)]
  exact ⟨_, rfl⟩

/-- A request for the state of the service, made by a page of an origin. -/
def visit (origin : String) : Request := ⟨"GET", "/health", [("origin", origin)], ""⟩

theorem value?_visit (origin : String) : (visit origin).value? "origin" = some origin := by
  have hname : ("origin".toLower == "origin") = true := by decide +kernel
  rw [Request.value?, Request.values, visit, List.filter_cons, if_pos hname]
  rfl

/-- With two origins in a list, the second one is named to its pages, and a third one is not. -/
theorem served_two_origins : ∃ config server,
    Config.ofLookup (listing "https://a.example, https://b.example,") = .ok config ∧
    Server.ofConfig? config = some server ∧
    (∃ response, (server.respond Plan.none (visit "https://b.example") Sample.system).ending =
      .returned response ∧ response.origins = ["https://b.example"]) ∧
    ∃ response, (server.respond Plan.none (visit "https://c.example") Sample.system).ending =
      .returned response ∧ response.origins = [] := by
  obtain ⟨config, h⟩ := exists_config "https://a.example, https://b.example,"
  obtain ⟨hnone, hserved⟩ := served_unless_wildcard h
  have hserver : Server.ofConfig? config ≠ none := mt hnone.mp (by decide +kernel)
  obtain ⟨server, hserver⟩ := Option.ne_none_iff_exists'.mp hserver
  refine ⟨config, server, h, hserver, ?_, ?_⟩
  · rcases hserved server hserver Plan.none (visit "https://b.example") Sample.system with
      ⟨response, hending, hanswers⟩ | ⟨-, hcrashed⟩
    · exact ⟨response, hending, hanswers.named _ (value?_visit _) (by decide +kernel)⟩
    · cases hcrashed
  · rcases hserved server hserver Plan.none (visit "https://c.example") Sample.system with
      ⟨response, hending, hanswers⟩ | ⟨-, hcrashed⟩
    · refine ⟨response, hending, hanswers.unnamed fun origin hvalue => ?_⟩
      obtain rfl := Option.some.inj ((value?_visit _).symm.trans hvalue)
      decide +kernel
    · cases hcrashed

/-- The rule as it is meant: every configuration that is accepted is served, whatever its origins
are. -/
def EveryConfigServed : Prop :=
  ∀ lookup config, Config.ofLookup lookup = .ok config →
    ∃ server, Server.ofConfig? config = some server ∧ ∀ plan r s response,
      (server.respond plan r s).ending = .returned response → AnswersOrigin lookup r response

/-- The mark for any origin is accepted as an origin, and nothing can be served then. -/
theorem not_everyConfigServed : ¬ EveryConfigServed := by
  intro hserved
  obtain ⟨config, h⟩ := exists_config "*"
  obtain ⟨server, hserver, -⟩ := hserved _ config h
  have hnone : Server.ofConfig? config = none :=
    (Server.ofConfig?_eq_none_iff h).mpr (by decide +kernel)
  rw [hnone] at hserver
  cases hserver

end Http

end SessionAuth
