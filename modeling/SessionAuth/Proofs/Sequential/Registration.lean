import SessionAuth.Proofs.Sequential.Healthy
import SessionAuth.Proofs.Service.Failure
import SessionAuth.Proofs.User.Row

/-!
# What a registration is good for

An account that has been registered can be logged in to, by every text that spells its username.
Its e-mail address and its username pass when they are read back from a database, its password is
checked against the hash that was made of it, and issuing tokens never fails.

* `Registration.Describes`: an account is what a registration asks for; `of_settle_register` finds
  such an account in the table.
* `Plan.ReadsRows`: accounts are looked up in a database that has kept their columns.
* `run_login_of_found`: a login whose look-up has found an account.
* `login_of_registered`: **a registered account can log in.**
* `not_registeredAccepted`: it may get tokens that are not accepted.
-/

namespace SessionAuth

namespace Service

open Operation

variable {s s' : System}

/-! ## Registering -/

/-- An account is what a registration asks for. -/
structure Registration.Describes (r : Registration) (user : User) : Prop where
  username : Username.ofText r.username = .ok user.username
  name : user.name = Text.trim r.name
  email : Email.ofText r.email = .ok user.email
  role : user.role = .user

theorem of_settle_newHash {password : String} {hash : PasswordHash}
    (h : (newHash password).settle s = some (.ok hash, s')) :
    (∃ salt, s.hasher.hash salt password = .ok hash.text) ∧ s'.users = s.users := by
  obtain ⟨hashed, s₁, hask, hrest⟩ := exists_of_settle_bind_ok h
  obtain ⟨rfl, rfl⟩ := Prod.mk.inj (Option.some.inj (of_settle_ask hask))
  obtain ⟨text, s₂, hresult, hlast⟩ := exists_of_settle_bind_ok hrest
  obtain ⟨htext, rfl⟩ := Prod.mk.inj (Option.some.inj hresult)
  obtain ⟨hof, rfl⟩ := of_settle_ofDomain hlast
  refine ⟨⟨s.random s.draws, ?_⟩, rfl⟩
  rw [htext, PasswordHash.text_of_ofText hof]

/-- **A registration that is accepted puts the account that it asks for into the table**, with a
hash of its password. -/
theorem of_settle_register {r : Registration} {view : UserView}
    (h : (register r).settle s = some (.ok view, s')) :
    ∃ user salt, r.Describes user ∧ view = user.view ∧
      s.hasher.hash salt r.password = .ok user.passwordHash.text ∧ s'.users.Holds user := by
  rw [register] at h
  obtain ⟨username, s₁, hfirst, h₁⟩ := exists_of_settle_bind_ok h
  obtain ⟨husername, rfl⟩ := of_settle_ofDomain hfirst
  obtain ⟨email, s₂, hsecond, h₂⟩ := exists_of_settle_bind_ok h₁
  obtain ⟨hemail, rfl⟩ := of_settle_ofDomain hsecond
  obtain ⟨_, s₃, hrule, h₃⟩ := exists_of_settle_bind_ok (of_settle_unless h₂)
  obtain ⟨-, rfl⟩ := Prod.mk.inj (Option.some.inj hrule)
  obtain ⟨found, s₄, hlook, h₄⟩ := exists_of_settle_bind_ok h₃
  obtain ⟨-, rfl⟩ := Prod.mk.inj (Option.some.inj (of_settle_ask hlook))
  obtain ⟨taken, s₅, hfound, h₅⟩ := exists_of_settle_bind_ok h₄
  obtain ⟨-, rfl⟩ := of_settle_ofDomain hfound
  -- The checks have changed nothing, and now the account is made.
  obtain ⟨hash, s₆, hhash, h₆⟩ := exists_of_settle_bind_ok (of_settle_unless h₅)
  obtain ⟨⟨salt, hsalt⟩, husers⟩ := of_settle_newHash hhash
  obtain ⟨now, s₇, hclock, h₇⟩ := exists_of_settle_bind_ok h₆
  obtain ⟨-, rfl⟩ := Prod.mk.inj (Option.some.inj (of_settle_ask hclock))
  obtain ⟨inserted, s₈, hinsert, h₈⟩ := exists_of_settle_bind_ok h₇
  obtain ⟨user, s₉, hok, hview⟩ := exists_of_settle_bind_ok h₈
  obtain ⟨rfl, rfl⟩ := of_settle_ofDomain hok
  obtain ⟨hlast, rfl⟩ := Prod.mk.inj (Option.some.inj hview)
  rcases System.withUsers_cases (Option.some.inj (of_settle_ask hinsert)) with
    ⟨e, -, he, -⟩ | ⟨u, users, hnew, hu, rfl⟩
  · exact absurd he (by simp)
  · obtain rfl := Except.ok.inj hu
    have hmade := UserTable.withId_of_insert hnew
    refine ⟨user, salt, ⟨?_, ?_, ?_, ?_⟩, (Except.ok.inj hlast).symm, ?_,
      UserTable.holds_of_insert hnew⟩
    · rw [hmade]
      exact husername
    · rw [hmade]
      rfl
    · rw [hmade]
      exact hemail
    · rw [hmade]
      rfl
    · rw [hmade]
      exact hsalt

/-! ## Logging in -/

section Lookups

variable {past : List Exchange}

/-- The call looks no account up by its username. -/
def LooksNothingUp (_ : List Exchange) (c : Call) : Prop := ∀ name, c ≠ .findByUsername name

theorem along_storeToken (session : Session) :
    (storeToken session).Along LooksNothingUp (fun _ _ => True) past := by
  rw [storeToken]
  apply along_ask_bind (fun _ => by simp)
  intro verified _
  apply along_orFailed_bind
  intro claims _
  apply along_ask_bind (fun _ => by simp)
  intro now _
  split
  · exact along_pure trivial
  · apply along_ask_bind (fun _ => by simp)
    exact fun saved _ => along_orFailed fun _ _ => trivial

theorem along_grantToken (user : UserId) (kind : TokenKind) (extra : Claims) :
    (grantToken user kind extra).Along LooksNothingUp (fun _ _ => True) past := by
  rw [grantToken]
  apply along_ask_bind (fun _ => by simp)
  intro signed _
  apply along_ofResult_bind
  intro token _
  exact along_bind (along_storeToken _) fun _ _ _ => along_pure trivial

/-- Issuing a session looks nothing up. -/
theorem along_issueSession (user : User) :
    (issueSession user).Along LooksNothingUp (fun _ _ => True) past := by
  rw [issueSession_eq]
  apply along_bind (along_grantToken _ _ _)
  intro past access _
  exact along_bind (along_grantToken _ _ _) fun _ _ _ => along_pure trivial

end Lookups

end Service

/-- Look-ups by username may go to a database that has the columns of the accounts of a table, and
all other calls are left alone. -/
structure Plan.ReadsRows (plan : Plan) (t : UserTable) : Prop where
  lookup : ∀ n name, plan n (.findByUsername name) = .none ∨ ∃ row affected,
    plan n (.findByUsername name) =
        some (.answer ((UserRepository.findByUsername name).result (.ok ⟨row, affected⟩))) ∧
      Option.Rel RawRow.Shows row (t.findByUsername name)
  spares : ∀ n c, (∀ name, c ≠ .findByUsername name) → plan n c = .none

namespace Service

open Operation

variable {s s' : System} {plan : Plan}

/-- What a login does with the account that it has found. -/
def completeLogin (password : String) (user : User) : Operation LoginResult := do
  match ← ask (.checkPassword password user.passwordHash.text) with
  | .ok () =>
    let tokens ← issueSession user
    return ⟨user.view, tokens⟩
  | .error _ => throw (.auth .invalidCredentials)

theorem login_of_ofText {username : String} {name : Username}
    (h : Username.ofText username = .ok name) (password : String) :
    ∃ next, ExceptT.run (login username password) = .call (.findByUsername name) next ∧
      ∀ user, next (.ok (some user)) = ExceptT.run (completeLogin password user) := by
  rw [login, authenticate, h]
  refine ⟨_, rfl, fun user => ?_⟩
  rw [completeLogin]
  apply congrArg (Flow.call _)
  funext checked
  rcases checked with e | ⟨⟩
  · rfl
  · rfl

/-- A login with the right password comes to an end. -/
theorem run_completeLogin {password : String} {user : User} {pair : TokenPair}
    (hspares : ∀ n c, (∀ name, c ≠ .findByUsername name) → plan n c = .none)
    (hcheck : s.hasher.check password user.passwordHash.text = .ok ())
    (hissue : (issueSession user).settle s = some (.ok pair, s')) (n : Nat) :
    ∃ calls, Flow.run plan n (ExceptT.run (completeLogin password user)) s =
      ⟨.returned (.ok ⟨user.view, pair⟩), calls, s'⟩ := by
  have hserve : s.serve (.checkPassword password user.passwordHash.text) =
      some (.ok (), s) := by
    rw [System.serve, hcheck]
  have hspared : plan n (.checkPassword password user.passwordHash.text) = .none :=
    hspares n _ fun _ => by simp
  have halong : (issueSession user).Along LooksNothingUp (fun _ _ => True) [] :=
    along_issueSession user
  obtain ⟨m, calls, hrun⟩ := run_bind_of_spared halong
    (f := fun tokens => pure (⟨user.view, tokens⟩ : LoginResult))
    (fun _ c hc n => hspares n c hc) hissue (n + 1)
  refine ⟨.checkPassword password user.passwordHash.text :: (calls ++ []), ?_⟩
  have hcomplete : ExceptT.run (completeLogin password user) =
      .call (.checkPassword password user.passwordHash.text) fun checked =>
        ExceptT.run (match checked with
          | .ok () => issueSession user >>= fun tokens => pure ⟨user.view, tokens⟩
          | .error _ => throw (.auth .invalidCredentials)) := rfl
  rw [hcomplete, Flow.run, hspared, hserve]
  dsimp only
  rw [hrun]
  rfl

/-- A login that finds an account with the right password opens a session for it. -/
theorem run_login_of_found {username password : String} {name : Username} {user : User}
    {pair : TokenPair} (hname : Username.ofText username = .ok name)
    (hfound : plan 0 (.findByUsername name) = some (.answer (.ok (some user))) ∨
      plan 0 (.findByUsername name) = .none ∧ s.users.findByUsername name = some user)
    (hspares : ∀ n c, (∀ name, c ≠ .findByUsername name) → plan n c = .none)
    (hcheck : s.hasher.check password user.passwordHash.text = .ok ())
    (hissue : (issueSession user).settle s = some (.ok pair, s')) :
    ∃ calls, (login username password).run plan s =
      ⟨.returned (.ok ⟨user.view, pair⟩), calls, s'⟩ := by
  obtain ⟨next, hlogin, hnext⟩ := login_of_ofText hname password
  obtain ⟨calls, hcomplete⟩ := run_completeLogin hspares hcheck hissue 1
  refine ⟨.findByUsername name :: calls, ?_⟩
  rw [Operation.run, hlogin, Flow.run]
  rcases hfound with hanswer | ⟨hnone, hfind⟩
  · rw [hanswer]
    dsimp only
    rw [hnext, hcomplete]
    rfl
  · have hserve : s.serve (.findByUsername name) = some (.ok (some user), s) := by
      rw [System.serve, hfind]
    rw [hnone, hserve]
    dsimp only
    rw [hnext, hcomplete]
    rfl

/-- The account is found, be it in memory or in a database. -/
theorem exists_found {user : User} (hplan : plan.ReadsRows s.users) (hholds : s.users.Holds user)
    (hemail : user.email.Normal) : ∃ v, user.SameButDates v ∧
      (plan 0 (.findByUsername user.username) = some (.answer (.ok (some v))) ∨
        plan 0 (.findByUsername user.username) = .none ∧
          s.users.findByUsername user.username = some v) := by
  have hfind := hholds.findByUsername
  rcases hplan.lookup 0 user.username with hnone | ⟨row, affected, hanswer, hrow⟩
  · exact ⟨user, User.SameButDates.refl user, Or.inr ⟨hnone, hfind⟩⟩
  · rw [hfind] at hrow
    obtain ⟨hshows⟩ := hrow
    obtain ⟨v, hread, hsame⟩ := UserRepository.optionalUser_of_shows hshows hemail affected
    refine ⟨v, hsame, Or.inl (hanswer.trans ?_)⟩
    exact congrArg (fun found => some (Reply.answer found)) hread

end Service

/-- The hasher accepts a password against every hash that it has made of it. -/
def Hasher.Faithful (hasher : Hasher) : Prop :=
  ∀ salt password text, hasher.hash salt password = .ok text → hasher.check password text = .ok ()

namespace Sample

open Operation Service

/-- A registration with white space around its texts. -/
def registration : Registration :=
  ⟨" bobby ", " Bob  the builder ", " Bob@EXAMPLE.com ", "hunter22"⟩

/-- A system without accounts, while the clock of the service is ahead of the wall clock by some
seconds. -/
def vacant (ahead : Int) : System := { system with users := .empty, clockAhead := ahead }

/-- The account that is registered there. -/
def bobby (ahead : Int) : User where
  id := ⟨1, Nat.one_pos, UserId.one_le_max⟩
  username := ⟨"bobby", by decide, by decide⟩
  name := "Bob  the builder"
  email := ⟨"bob@example.com", by decide⟩
  passwordHash := ⟨"plain$hunter22", by decide⟩
  role := .user
  createdAt := (vacant ahead).serviceTime
  updatedAt := (vacant ahead).serviceTime
  deletedAt := none

/-- The system after the registration. -/
def withBobby (ahead : Int) : System :=
  { vacant ahead with users := ⟨[bobby ahead]⟩, draws := 1 }

theorem issuing_vacant (ahead : Int) : (vacant ahead).Issuing :=
  ⟨steady_system.inCalendar, steady_system.ttl⟩

theorem faithful_plain : Hasher.plain.Faithful := by
  intro salt password text h
  obtain rfl := Except.ok.inj h
  have hprefix : Hasher.plainMark.toList.isPrefixOf (Hasher.plainMark ++ password).toList = true := by
    rw [List.isPrefixOf_iff_prefix, String.toList_append]
    exact List.prefix_append _ _
  exact (if_pos hprefix).trans (if_pos rfl)

theorem settle_register (ahead : Int) :
    (register registration).settle (vacant ahead) =
      some (.ok (bobby ahead).view, withBobby ahead) := by
  let s := vacant ahead
  have hnamed : Username.ofText registration.username = .ok (bobby 0).username := by
    decide +kernel
  have haddressed : Email.ofText registration.email = .ok (bobby 0).email := by decide +kernel
  have husername : (ofDomain (Username.ofText registration.username)).settle s =
      some (.ok (bobby ahead).username, s) := by
    rw [hnamed]
    rfl
  have hemail : (ofDomain (Email.ofText registration.email)).settle s =
      some (.ok (bobby ahead).email, s) := by
    rw [haddressed]
    rfl
  have hname : ¬ Text.isBlankText registration.name = true := by decide
  have hrule : checkNewPassword registration.password = .ok () := by decide
  have hfind : s.serve (.findByUsername (bobby ahead).username) = some (.ok none, s) := rfl
  have hnone : (ofDomain (Except.ok none : Except DomainError (Option User))).settle s =
      some (.ok none, s) := rfl
  have hhash : (newHash registration.password).settle s =
      some (.ok (bobby ahead).passwordHash, { s with draws := 1 }) := rfl
  have hclock : ({ s with draws := 1 } : System).serve .readClock =
      some (s.serviceTime, { s with draws := 1 }) := rfl
  have htrimmed : Text.trim registration.name = "Bob  the builder" := by decide
  have hmade : ({ s with draws := 1 } : System).serve (.insertUser (NewUser.make
      (bobby ahead).username registration.name (bobby ahead).email (bobby ahead).passwordHash
      s.serviceTime)) = some (.ok (bobby ahead), withBobby ahead) := by
    rw [NewUser.make, htrimmed]
    rfl
  rw [register, settle_bind_ok husername, settle_bind_ok hemail]
  dsimp only
  rw [if_neg hname, hrule, settle_bind_ok (settle_ofResult _ _), settle_bind_ok (settle_ask hfind),
    settle_bind_ok hnone, Option.isSome_none, if_neg Bool.false_ne_true, settle_bind_ok hhash,
    settle_bind_ok (settle_ask hclock), settle_bind_ok (settle_ask hmade)]
  rfl

/-- The system after a login with the clock of the service more than a day ahead. -/
def loggedInAhead : System := ((withBobby 100000).signPair (bobby 100000)).2

/-- The tokens of that login. -/
def pairAhead : TokenPair := ((withBobby 100000).signPair (bobby 100000)).1

theorem run_loginAhead : ∃ calls,
    (Service.login "bobby" registration.password).run Plan.none (withBobby 100000) =
      ⟨.returned (.ok ⟨(bobby 100000).view, pairAhead⟩), calls, loggedInAhead⟩ := by
  have hlt : ∀ kind, (withBobby 100000).now.seconds < (withBobby 100000).expiry kind :=
    (issuing_vacant 100000).lt_expiry
  have hpast : ∀ kind, (withBobby 100000).expiry kind ≤ (withBobby 100000).serviceTime.seconds := by
    intro kind
    cases kind <;> decide
  have hissue : (issueSession (bobby 100000)).settle (withBobby 100000) =
      some (.ok pairAhead, loggedInAhead) :=
    settle_issueSession_of_expired (s := withBobby 100000) steady_system.inCalendar hlt hpast _
  have hname : Username.ofText "bobby" = .ok (bobby 100000).username := by decide
  have hfind : (withBobby 100000).users.findByUsername (bobby 100000).username =
      some (bobby 100000) := by decide
  have hcheck : Hasher.plain.check registration.password (bobby 100000).passwordHash.text =
      .ok () := by decide
  exact run_login_of_found hname (Or.inr ⟨rfl, hfind⟩) (fun _ _ _ => rfl) hcheck hissue

/-- A database that keeps other dates than it was given. -/
def bobbyRow : RawRow :=
  ⟨some 1, some "bobby", some "Bob  the builder", some "bob@example.com", some "plain$hunter22",
    some "user", some ⟨7, 0⟩, some ⟨7, 0⟩, none⟩

theorem shows_bobbyRow : bobbyRow.Shows (bobby 0) where
  id := rfl
  username := rfl
  name := rfl
  email := rfl
  passwordHash := rfl
  role := rfl
  createdAt := rfl
  updatedAt := rfl

/-- The rows of that database by their username. -/
def bobbyRow? (name : Username) : Option RawRow :=
  if name = (bobby 0).username then some bobbyRow else none

/-- Accounts are looked up in that database. -/
def fromDatabase : Plan := fun _ c =>
  match c with
  | .findByUsername name =>
    some (.answer ((UserRepository.findByUsername name).result (.ok ⟨bobbyRow? name, 0⟩)))
  | _ => none

theorem readsRows_fromDatabase : fromDatabase.ReadsRows (withBobby 0).users where
  lookup := by
    intro n name
    refine Or.inr ⟨bobbyRow? name, 0, rfl, ?_⟩
    by_cases hname : name = (bobby 0).username
    · have hfind : (withBobby 0).users.findByUsername (bobby 0).username = some (bobby 0) := by
        decide
      rw [hname, hfind, bobbyRow?, if_pos rfl]
      exact .some shows_bobbyRow
    · have hfind : (withBobby 0).users.findByUsername name = none := by
        cases hfound : (withBobby 0).users.findByUsername name with
        | none => rfl
        | some u =>
          obtain ⟨hlive, rfl⟩ := UserTable.findByUsername_spec hfound
          have hu : u = bobby 0 := List.mem_singleton.mp (UserTable.mem_live.mp hlive).1
          exact absurd (congrArg User.username hu) hname
      rw [hfind, bobbyRow?, if_neg hname]
      exact .none
  spares := by
    intro n c hc
    cases c with
    | findByUsername name => exact absurd rfl (hc name)
    | _ => rfl

end Sample

namespace Service

open Operation

/-- **A registered account can log in**, as long as its user has neither changed the password nor
deleted it, and the access token that it gets is accepted if the clock of the service leaves it any
time. -/
theorem login_of_registered {s s₁ s₂ : System} {registration : Registration} {view : UserView}
    {calls : List Call} {log : List Event} {username : String} {plan : Plan}
    (hissuing : s.Issuing) (hhasher : s.hasher.Faithful)
    (hregister : (register registration).run Plan.none s = ⟨.returned (.ok view), calls, s₁⟩)
    (hlog : Answered s₁ log s₂)
    (hkept : ∀ e ∈ log, ∀ id, e.altered? = some id → id.val ≠ view.id) (hroom : s₂.ServiceRoom)
    (hname : Text.trim username = Text.trim registration.username)
    (hplan : plan.ReadsRows s₂.users) :
    ∃ createdAt tokens calls s₃,
      (login username registration.password).run plan s₂ =
        ⟨.returned (.ok ⟨⟨view.id, Text.trim registration.username, Text.trim registration.name,
          Text.lowerCase (Text.trim registration.email), .user, createdAt⟩, tokens⟩), calls, s₃⟩ ∧
      (s₂.serviceTime.seconds < s₂.expiry .access → ∃ caller calls,
        (validate tokens.access).run Plan.none s₃ = ⟨.returned (.ok caller), calls, s₃⟩ ∧
          caller.id.val = view.id) := by
  have hsettle := settle_of_run hregister
  obtain ⟨user, salt, hmade, rfl, hhash, hholds⟩ := of_settle_register hsettle
  obtain ⟨past, -, hthrough⟩ := yields_of_run (Plan.fails_none fun _ => False) hregister
  have honward := hthrough.onward
  have hissuing₁ : s₁.Issuing :=
    ⟨honward.inCalendar hissuing.inCalendar, honward.provider ▸ hissuing.ttl⟩
  have hunaltered : Unaltered s.hasher user s₂ :=
    unaltered_of_answered hlog ⟨hholds, hthrough.hasher, hissuing₁⟩
      fun e he haltered => hkept e he user.id haltered rfl
  -- The account is found under its username, with all that the login needs of it.
  obtain ⟨v, hsame, hfound⟩ := exists_found hplan hunaltered.holds
    (Email.normal_of_ofText hmade.email)
  have husername : Username.ofText username = .ok user.username :=
    (Username.ofText_congr hname).trans hmade.username
  have hcheck : s₂.hasher.check registration.password v.passwordHash.text = .ok () := by
    rw [hunaltered.hasher, hsame.passwordHash]
    exact hhasher salt registration.password _ hhash
  obtain ⟨pair, s₃, hissue⟩ := exists_issue? hroom v
  have hissued : (issueSession v).settle s₂ = some (.ok pair, s₃) := by
    rw [settle_issueSession_eq hunaltered.issuing, hissue]
    rfl
  obtain ⟨calls', hlogin⟩ := run_login_of_found husername hfound hplan.spares hcheck hissued
  have hview : v.view = ⟨user.view.id, Text.trim registration.username,
      Text.trim registration.name, Text.lowerCase (Text.trim registration.email), .user,
      v.createdAt⟩ := by
    rw [User.view, hsame.id, hsame.username, hsame.name, hsame.email, hsame.role, hmade.name,
      hmade.role, Username.text_of_ofText hmade.username, Email.text_of_ofText hmade.email]
    rfl
  refine ⟨v.createdAt, pair, calls', s₃, hview ▸ hlogin, fun hleft => ?_⟩
  obtain ⟨claims, haccepts⟩ := accepts_of_issue? hunaltered.issuing hroom hissue hleft
  obtain ⟨calls'', hvalidate⟩ := exists_run_of_settle (settle_validate_of_accepts haccepts)
  exact ⟨_, calls'', hvalidate, congrArg UserId.val hsame.id⟩

/-- An account is registered, logs out and logs in again, while the database keeps other dates. -/
theorem login_of_bobby : ∃ calls s₂,
    (Sample.vacant 0).Issuing ∧ (Sample.vacant 0).hasher.Faithful ∧
    (register Sample.registration).run Plan.none (Sample.vacant 0) =
      ⟨.returned (.ok (Sample.bobby 0).view), calls, Sample.withBobby 0⟩ ∧
    Answered (Sample.withBobby 0) [⟨.logout (Sample.bobby 0).id, .ok ()⟩] s₂ ∧
    s₂.ServiceRoom ∧ Text.trim "bobby " = Text.trim Sample.registration.username ∧
    Sample.fromDatabase.ReadsRows s₂.users ∧
    ∃ createdAt tokens calls s₃, (login "bobby " "hunter22").run Sample.fromDatabase s₂ =
        ⟨.returned (.ok ⟨⟨1, "bobby", "Bob  the builder", "bob@example.com", .user, createdAt⟩,
          tokens⟩), calls, s₃⟩ ∧
      ∃ caller calls, (validate tokens.access).run Plan.none s₃ =
        ⟨.returned (.ok caller), calls, s₃⟩ ∧ caller.id.val = 1 := by
  obtain ⟨calls, hregister⟩ := exists_run_of_settle (Sample.settle_register 0)
  obtain ⟨calls', hlogout⟩ :=
    exists_run_of_settle (settle_revokeAll (Sample.withBobby 0) (Sample.bobby 0).id)
  have hlog : Answered (Sample.withBobby 0) [⟨.logout (Sample.bobby 0).id, .ok ()⟩]
      ((Sample.withBobby 0).revoked (Sample.bobby 0).id) :=
    .request (r := .logout (Sample.bobby 0).id) .start hlogout
  have hroom : ((Sample.withBobby 0).revoked (Sample.bobby 0).id).ServiceRoom := fun kind => by
    cases kind <;> decide
  have hname : Text.trim "bobby " = Text.trim Sample.registration.username := by decide
  have hkept : ∀ e ∈ [(⟨.logout (Sample.bobby 0).id, .ok ()⟩ : Event)], ∀ id,
      e.altered? = some id → id.val ≠ (Sample.bobby 0).view.id := by
    intro e he id hid
    obtain rfl := List.mem_singleton.mp he
    exact absurd hid (by simp [Event.altered?, Request.alters?])
  obtain ⟨createdAt, tokens, calls₃, s₃, hlogin, haccepted⟩ :=
    login_of_registered (Sample.issuing_vacant 0) Sample.faithful_plain hregister hlog hkept hroom
      hname Sample.readsRows_fromDatabase
  have husername : Text.trim Sample.registration.username = "bobby" := by decide
  have hnamed : Text.trim Sample.registration.name = "Bob  the builder" := by decide
  have hemail : Text.lowerCase (Text.trim Sample.registration.email) = "bob@example.com" := by
    decide +kernel
  rw [husername, hnamed, hemail] at hlogin
  exact ⟨calls, _, Sample.issuing_vacant 0, Sample.faithful_plain, hregister, hlog, hroom, hname,
    Sample.readsRows_fromDatabase, createdAt, tokens, calls₃, s₃, hlogin, haccepted (by decide)⟩

/-- A registered account can log in, as long as its user has neither changed the password nor
deleted it, and the access token that it gets is accepted. -/
def RegisteredAccepted : Prop :=
  ∀ (s₀ s s₁ s₂ : System) (earlier log : List Event) (registration : Registration)
    (view : UserView) (calls : List Call) (username : String),
    s₀.users = .empty → s₀.sessions = .empty → s₀.Issuing → s₀.hasher.Faithful →
    Answered s₀ earlier s →
    (register registration).run Plan.none s = ⟨.returned (.ok view), calls, s₁⟩ →
    Answered s₁ log s₂ → (∀ e ∈ log, ∀ id, e.altered? = some id → id.val ≠ view.id) →
    s₂.ServiceRoom → Text.trim username = Text.trim registration.username →
    ∃ result calls s₃ caller calls' s₄,
      (login username registration.password).run Plan.none s₂ =
        ⟨.returned (.ok result), calls, s₃⟩ ∧
      (validate result.tokens.access).run Plan.none s₃ = ⟨.returned (.ok caller), calls', s₄⟩ ∧
      caller.id.val = view.id

/-- **With the clock of the service too far ahead, the tokens of a login are not on record.** -/
theorem not_registeredAccepted : ¬ RegisteredAccepted := by
  intro h
  obtain ⟨calls, hregister⟩ := exists_run_of_settle (Sample.settle_register 100000)
  have hroom : (Sample.withBobby 100000).ServiceRoom := fun kind => by cases kind <;> decide
  have hname : Text.trim "bobby" = Text.trim Sample.registration.username := by decide
  obtain ⟨result, calls', s₃, caller, calls'', s₄, hlogin, hvalidate, -⟩ :=
    h _ _ _ _ [] [] Sample.registration _ calls "bobby" rfl rfl (Sample.issuing_vacant 100000)
      Sample.faithful_plain .start hregister .start (fun _ he => absurd he List.not_mem_nil) hroom
      hname
  obtain ⟨calls₁, hlogin₁⟩ := Sample.run_loginAhead
  have hsame := hlogin.symm.trans hlogin₁
  obtain rfl : s₃ = Sample.loggedInAhead := congrArg Run.system hsame
  obtain ⟨r, s₅, hsettle, hiff⟩ := settle_validate Sample.loggedInAhead result.tokens.access
  obtain ⟨rfl, -⟩ := Prod.mk.inj (Option.some.inj (hsettle.symm.trans (settle_of_run hvalidate)))
  have hstored := ((hiff caller).mp rfl).stored
  have hnone : Sample.loggedInAhead.live? ⟨caller.id, .access⟩ = none :=
    SessionStore.live?_empty _ _
  exact absurd (hnone.symm.trans hstored) (by simp)

end Service

end SessionAuth
