import SessionAuth.Proofs.Http.Login
import SessionAuth.Proofs.Service.Wording
import SessionAuth.Session.Cached
import SessionAuth.User.Repository

/-!
# What the words of a failure make of a response

When the database, a cache server, a store or a library fails, it says why in words of its own.
Such words are for a log, and a client gets to see none of them: only the kind of a failure counts.

* `Response.ofError_eq_of_wordless`: errors that differ in words have the same response.
* `alike_dispatch`: words make no difference to what is done with a request.
* `Mishap`: the failures, as the collaborators report them; `Mishap.answer?` is what a call is then
  answered, and `Mishap.wordless` a failure without its words.
* `respond_eq_of_wordless`: the main statement.
-/

namespace SessionAuth

namespace Http

open Service

/-! ## Requests -/

theorem Response.ofError_wordless (e : ServiceError) : ofError e.wordless = ofError e := by
  cases e with
  | domain e => cases e <;> rfl
  | _ => rfl

theorem Response.ofError_eq_of_wordless {e e' : ServiceError} (h : e.wordless = e'.wordless) :
    ofError e = ofError e' := by
  rw [← ofError_wordless e, h, ofError_wordless e']

theorem respond_eq_of_alikeResults {α : Type} {r r' : Except ServiceError α}
    (h : AlikeResults r r') (render : α → Response) : respond render r = respond render r' := by
  obtain ⟨a, rfl, rfl⟩ | ⟨e, e', rfl, rfl, he⟩ := eq_or_errors_of_mapError_eq h
  · rfl
  · exact Response.ofError_eq_of_wordless he

theorem alike_perform {α : Type} {op : Operation α} (h : op.Alike op) (render : α → Response) :
    (perform op render).Alike Eq (perform op render) :=
  h.flow.map fun _ _ hr => respond_eq_of_alikeResults hr render

section Handlers

variable (r : Request)

theorem alike_withCaller {next : Caller → Flow Response}
    (h : ∀ caller, (next caller).Alike Eq (next caller)) :
    (withCaller r next).Alike Eq (withCaller r next) := by
  rw [withCaller]
  split
  · exact .done rfl
  · refine (alike_validate _).flow.bind fun result result' hresult => ?_
    obtain ⟨caller, rfl, rfl⟩ | ⟨e, e', rfl, rfl, he⟩ := eq_or_errors_of_mapError_eq hresult
    · exact h caller
    · exact .done (Response.ofError_eq_of_wordless he)

theorem alike_withTexts (names : List String) {next : List String → Flow Response}
    (h : ∀ texts, (next texts).Alike Eq (next texts)) :
    (withTexts r names next).Alike Eq (withTexts r names next) := by
  rw [withTexts]
  split
  · exact h _
  · exact .done rfl

theorem alike_handle (route : Route) : (route.handle r).Alike Eq (route.handle r) := by
  cases route with
  | health => exact .done rfl
  | login => exact alike_withTexts r _ fun texts => alike_perform (alike_login _ _) _
  | logout => exact alike_withCaller r fun caller => alike_perform (alike_revokeAll _) _
  | refresh => exact alike_withTexts r _ fun texts => alike_perform (alike_refresh _) _
  | profile => exact alike_withCaller r fun caller => alike_perform (alike_profile caller) _
  | register => exact alike_withTexts r _ fun texts => alike_perform (alike_register _) _
  | changePassword =>
    exact alike_withCaller r fun caller => alike_withTexts r _ fun texts =>
      alike_perform (alike_changePassword caller _ _) _
  | softDelete => exact alike_withCaller r fun caller => alike_perform (alike_softDelete caller) _

/-- **Words make no difference to what is done with a request.** -/
theorem alike_dispatch : (dispatch r).Alike Eq (dispatch r) := by
  rw [dispatch]
  split
  · exact .done rfl
  split
  · exact .done rfl
  split
  · exact alike_handle r _
  split
  · exact (alike_handle r _).map fun _ _ h => congrArg Response.withoutBody h
  · exact .done rfl

theorem respond_eq_of_alike (server : Server) {plan plan' : Plan} (h : plan.Alike plan')
    (s : System) : server.respond plan r s = server.respond plan' r s := by
  rw [Server.respond_eq_finish, Server.respond_eq_finish,
    Flow.run_eq_of_alike h (alike_dispatch r) 0 s]

end Handlers

end Http

/-! ## Failures in words -/

open Database (Fault)

/-- What goes wrong with a collaborator, in its own words. -/
inductive Mishap where
  /-- The database cannot be asked, or it refuses. -/
  | database (fault : Fault)
  /-- The cache server cannot be asked, or it refuses, or it replies something else. -/
  | cache (outcome : Cache.Outcome)
  /-- Whoever has had the store in memory before has left it locked. -/
  | lock (words : String)
  /-- The library that hashes passwords has failed. -/
  | hashing (words : String)
  /-- The task in which the library runs is lost. -/
  | task (words : String)
  /-- The library cannot read a stored hash. -/
  | storedHash (words : String)
  /-- The library that signs tokens has failed. -/
  | signing (words : String)
  /-- The call never returns. -/
  | silence

/-- The fault, without words. The code of a refusal and the rule that is broken are none. -/
def Database.Fault.wordless : Fault → Fault
  | .rejected _ code rule => .rejected "" code rule
  | .protocol _ => .protocol ""
  | .columnNotFound _ => .columnNotFound ""
  | .io _ => .io ""
  | .configuration _ => .configuration ""
  | .column _ _ => .column "" ""
  | fault => fault

/-- The outcome, without words. What replies there are that are no text is told in words only. -/
def Cache.Outcome.wordless : Cache.Outcome → Cache.Outcome
  | .unavailable _ => .unavailable ""
  | .failed _ => .failed ""
  | .reply .array => .reply .bytes
  | .reply r => .reply r

namespace Mishap

def wordless : Mishap → Mishap
  | .database fault => .database fault.wordless
  | .cache outcome => .cache outcome.wordless
  | .lock _ => .lock ""
  | .hashing _ => .hashing ""
  | .task _ => .task ""
  | .storedHash _ => .storedHash ""
  | .signing _ => .signing ""
  | .silence => .silence

/-- The error of a store that is left locked, whatever the words. -/
def locked : ServiceError := .infrastructure "session store lock poisoned"

/-- What a call is answered when something goes wrong, if that has to do with the call. -/
def answer? : Mishap → (c : Call) → Option c.Answer
  | .database fault, .findByUsername name =>
    some ((UserRepository.findByUsername name).result (.error fault))
  | .database fault, .findById id =>
    some ((UserRepository.findById id).bind fun q => q.result (.error fault))
  | .database fault, .insertUser user => some ((UserRepository.insert user).result (.error fault))
  | .database fault, .updatePassword id hash at' =>
    some ((UserRepository.updatePassword id hash at').bind fun q => q.result (.error fault))
  | .database fault, .softDelete id at' =>
    some ((UserRepository.softDelete id at').bind fun q => q.result (.error fault))
  | .cache outcome, .saveSession _ _ => some (CachedSessions.saved outcome)
  | .cache outcome, .getSession slot => some (CachedSessions.found slot outcome)
  | .cache outcome, .deleteSession _ => some (CachedSessions.deleted outcome)
  | .lock _, .saveSession _ _ => some (.error locked)
  | .lock _, .getSession _ => some (.error locked)
  | .lock _, .deleteSession _ => some (.error locked)
  | .hashing words, .hashPassword _ => some (.error (.failed "error to hash password" words))
  | .task words, .hashPassword _ => some (.error (.failed "password hashing task failed" words))
  | .task words, .checkPassword _ _ => some (.error (.failed "password hashing task failed" words))
  | .storedHash words, .checkPassword _ _ =>
    some (.error (.failed "stored password hash is malformed" words))
  | .signing words, .signToken _ _ _ => some (.error (.failed "error to sign token" words))
  | _, _ => none

/-- What becomes of a call when something goes wrong. -/
def reply : Mishap → (c : Call) → Option (Reply c.Answer)
  | .silence, _ => some .silence
  | mishap, c => (mishap.answer? c).map .answer

/-- What becomes of the calls of a request when something goes wrong with some of them. -/
def plan (mishaps : Nat → Call → Option Mishap) : Plan :=
  fun n c => (mishaps n c).bind fun mishap => mishap.reply c

end Mishap

/-! ## Failures without words -/

theorem Database.Fault.toDomainError_wordless (fault : Fault) :
    fault.wordless.toDomainError.wordless = fault.toDomainError.wordless := by
  cases fault with
  | rejected text code rule =>
    cases rule with
    | some rule => rfl
    | none =>
      cases hcode : code.bind ofCode? with
      | some e => simp only [wordless, toDomainError, hcode, Option.getD_some]
      | none => simp only [wordless, toDomainError, hcode, Option.getD_none, DomainError.wordless]
  | _ => rfl

namespace UserRepository

/-- The request is refused before anything is sent, or a fault of the database makes an error of
users of it. -/
def PassesFaults {α : Type} (q? : Except DomainError (Request α)) : Prop :=
  ∀ q, q? = .ok q → ∀ fault, q.result (.error fault) = .error fault.toDomainError

theorem wordless_of_passesFaults {α : Type} {q? : Except DomainError (Request α)}
    (h : PassesFaults q?) (fault : Fault) :
    (q?.bind fun q => q.result (.error fault)).mapError DomainError.wordless =
      (q?.bind fun q => q.result (.error fault.wordless)).mapError DomainError.wordless := by
  cases q? with
  | error e => rfl
  | ok q =>
    change (q.result (.error fault)).mapError _ = (q.result (.error fault.wordless)).mapError _
    rw [h q rfl, h q rfl]
    exact congrArg Except.error fault.toDomainError_wordless.symm

theorem passesFaults_ok {α : Type} {q : Request α}
    (h : ∀ fault, q.result (.error fault) = .error fault.toDomainError) :
    PassesFaults (.ok q) := by
  intro q' hq
  obtain rfl := Except.ok.inj hq
  exact h

theorem passesFaults_bind {α κ : Type} {key? : Except DomainError κ} {make : κ → Request α}
    (h : ∀ key fault, (make key).result (.error fault) = .error fault.toDomainError) :
    PassesFaults (key? >>= fun key => pure (make key)) := by
  cases key? with
  | error e => exact fun q hq => absurd hq (by simp [bind, Except.bind])
  | ok key => exact passesFaults_ok (h key)

end UserRepository

namespace CachedSessions

variable (slot : Slot) (outcome : Cache.Outcome)

theorem saved_wordless : AlikeResults (saved outcome) (saved outcome.wordless) := by
  cases outcome with
  | reply r => cases r <;> rfl
  | _ => exact alikeResults_error_failed _ _ _

theorem deleted_wordless : AlikeResults (deleted outcome) (deleted outcome.wordless) := by
  cases outcome with
  | reply r => cases r <;> rfl
  | _ => exact alikeResults_error_failed _ _ _

theorem found_wordless : AlikeResults (found slot outcome) (found slot outcome.wordless) := by
  cases outcome with
  | reply r =>
    cases r with
    | array => exact alikeResults_error_failed _ _ _
    | _ => rfl
  | _ => exact alikeResults_error_failed _ _ _

end CachedSessions

namespace Mishap

variable (mishap : Mishap) (c : Call)

/-- What a call is answered differs in words at most when what goes wrong does. -/
theorem answer?_wordless :
    (mishap.answer? c).map c.wordless = (mishap.wordless.answer? c).map c.wordless := by
  cases mishap with
  | database fault =>
    -- A fault goes through the query into the answer; each query says the same of it.
    have hpasses : ∀ {α : Type} {q? : Except DomainError (UserRepository.Request α)},
        UserRepository.PassesFaults q? →
        some ((q?.bind fun q => q.result (.error fault)).mapError DomainError.wordless) =
          some ((q?.bind fun q => q.result (.error fault.wordless)).mapError
            DomainError.wordless) :=
      fun h => congrArg some (UserRepository.wordless_of_passesFaults h fault)
    cases c with
    | findByUsername name =>
      exact hpasses (UserRepository.passesFaults_ok (q := UserRepository.findByUsername name)
        fun _ => rfl)
    | insertUser user =>
      exact hpasses (UserRepository.passesFaults_ok (q := UserRepository.insert user)
        fun _ => rfl)
    | findById id => exact hpasses (UserRepository.passesFaults_bind fun _ _ => rfl)
    | updatePassword id hash at' => exact hpasses (UserRepository.passesFaults_bind fun _ _ => rfl)
    | softDelete id at' => exact hpasses (UserRepository.passesFaults_bind fun _ _ => rfl)
    | _ => rfl
  | cache outcome =>
    cases c with
    | saveSession session ttl => exact congrArg some (CachedSessions.saved_wordless outcome)
    | getSession slot => exact congrArg some (CachedSessions.found_wordless slot outcome)
    | deleteSession slot => exact congrArg some (CachedSessions.deleted_wordless outcome)
    | _ => rfl
  | _ => cases c <;> rfl

theorem reply_wordless :
    (mishap.reply c).map (Reply.map c.wordless) =
      (mishap.wordless.reply c).map (Reply.map c.wordless) := by
  have hanswer : ((mishap.answer? c).map Reply.answer).map (Reply.map c.wordless) =
      ((mishap.wordless.answer? c).map Reply.answer).map (Reply.map c.wordless) := by
    have hmap : ∀ answer? : Option c.Answer,
        (answer?.map Reply.answer).map (Reply.map c.wordless) =
          (answer?.map c.wordless).map Reply.answer := fun answer? => by cases answer? <;> rfl
    rw [hmap, hmap, answer?_wordless]
  cases mishap with
  | silence => rfl
  | _ => exact hanswer

theorem plan_alike {mishaps mishaps' : Nat → Call → Option Mishap}
    (h : ∀ n c, (mishaps n c).map wordless = (mishaps' n c).map wordless) :
    (plan mishaps).Alike (plan mishaps') := by
  intro n c
  have hwordless : ∀ mishap? : Option Mishap,
      (mishap?.bind fun mishap => mishap.reply c).map (Reply.map c.wordless) =
        ((mishap?.map wordless).bind fun mishap => mishap.reply c).map (Reply.map c.wordless) := by
    intro mishap?
    cases mishap? with
    | none => rfl
    | some mishap => exact mishap.reply_wordless c
  rw [plan, plan, hwordless, h, ← hwordless]

end Mishap

/-! ## Responses -/

namespace Http

/-- **The words of a failure never reach a client.** Take any request, any system, and two runs in
which something goes wrong with the same calls, and the same but for the words in which it is told:
faults of the database with the same codes and broken rules, failures of a cache server, of a store
in memory, of the library that hashes passwords or of the one that signs tokens, and calls that
never return. Then both runs come to the same response, by the same calls, and they leave the same
system. -/
theorem respond_eq_of_wordless (server : Server) (r : Request) (s : System)
    {mishaps mishaps' : Nat → Call → Option Mishap}
    (h : ∀ n c, (mishaps n c).map Mishap.wordless = (mishaps' n c).map Mishap.wordless) :
    server.respond (Mishap.plan mishaps) r s = server.respond (Mishap.plan mishaps') r s :=
  respond_eq_of_alike r server (Mishap.plan_alike h) s

/-! ## Tokens that cannot be signed -/

/-- The library that signs tokens fails, in some words, whenever it is asked. -/
def unsigned (words : String) : Nat → Call → Option Mishap
  | _, .signToken _ _ _ => some (.signing words)
  | _, _ => none

theorem unsigned_wordless (words words' : String) (n : Nat) (c : Call) :
    (unsigned words n c).map Mishap.wordless = (unsigned words' n c).map Mishap.wordless := by
  cases c <;> rfl

/-- A login for which no token can be signed. -/
def unsignedLogin (words : String) : Run Response :=
  ownServer.respond (Mishap.plan (unsigned words)) (loginRequest "alice" "secret123") Sample.system

theorem unsignedLogin_status : ∃ response,
    (unsignedLogin "key too short").ending = .returned response ∧ response.status = 500 := by
  have hstatus : (match (unsignedLogin "key too short").ending with
      | .returned response => response.status
      | _ => 0) = 500 := by decide +kernel
  split at hstatus
  · exact ⟨_, ‹_›, hstatus⟩
  · exact absurd hstatus (by decide)

/-- Whether the key is too short or cannot be read, the login has the same response, which is the
one to failures. -/
theorem respond_eq_of_unsigned :
    (∀ n c, (unsigned "key too short" n c).map Mishap.wordless =
      (unsigned "key unreadable" n c).map Mishap.wordless) ∧
    unsignedLogin "key too short" = unsignedLogin "key unreadable" ∧
    ∃ response, (unsignedLogin "key unreadable").ending = .returned response ∧
      response.status = 500 := by
  have halike : unsignedLogin "key too short" = unsignedLogin "key unreadable" :=
    respond_eq_of_wordless ownServer _ _ (unsigned_wordless _ _)
  exact ⟨unsigned_wordless _ _, halike, halike ▸ unsignedLogin_status⟩

end Http

end SessionAuth
