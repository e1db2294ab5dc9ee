import SessionAuth.Proofs.Sequential.Effect
import SessionAuth.Proofs.Service.History

/-!
# Sessions belong to accounts and tell the truth about them

Whatever fails on the way, a token is on record only for an account that is there, and it names
that account, its name and its role: tokens are signed for what has just been looked up, nothing
changes a name or a role, and an account is deleted only after its slots have been cleared.

* `Claims.Describe`: what a token says about an account.
* `Truthful`: what holds between two requests; `Upright` is what holds while one is worked on.
* `invariant_upright`: every call keeps it up.
* `truthful_of_course`: it holds after every course.
* `account_of_validate`: who is behind a token that has been accepted.
-/

namespace SessionAuth

/-! ## What a token says -/

/-- Claims of a token for an account. Those of an access token give its role and its name. -/
structure Claims.Describe (claims : Claims) (user : User) (kind : TokenKind) : Prop where
  names : ∃ expires, claims.Names user.id kind expires
  roles : kind = .access → claims.roles = [user.role.name]
  name : kind = .access → claims.get? nameKey = some (.string user.name)

theorem Claims.Describe.alike {claims : Claims} {user other : User} {kind : TokenKind}
    (h : claims.Describe user kind) (halike : user.Alike other) : claims.Describe other kind where
  names := by
    rw [halike.id]
    exact h.names
  roles := by
    rw [halike.role]
    exact h.roles
  name := by
    rw [halike.name]
    exact h.name

/-- A token that opens to claims for an account. -/
def TokenProvider.Describes (p : TokenProvider) (token : String) (user : User)
    (kind : TokenKind) : Prop :=
  ∃ claims, Token.open? p.key token = some claims ∧ claims.Describe user kind

theorem TokenProvider.Describes.alike {p : TokenProvider} {token : String} {user other : User}
    {kind : TokenKind} (h : p.Describes token user kind) (halike : user.Alike other) :
    p.Describes token other kind := by
  obtain ⟨claims, hopen, hdescribe⟩ := h
  exact ⟨claims, hopen, hdescribe.alike halike⟩

namespace Service

theorem sessionClaims_eq (user : User) : sessionClaims user =
    [(Claims.nameKey, .string user.name), (Claims.rolesKey, .array [.string user.role.name])] := by
  have hlt : Claims.nameKey < Claims.rolesKey := by decide
  have hne : Claims.nameKey ≠ Claims.rolesKey := by decide
  simp [sessionClaims, Json.Fields.ofList, Json.Fields.merge, Json.Fields.insert, hlt, hne]

/-- **A token for an account describes it.** -/
theorem describes_issue {p : TokenProvider} {now : Int} {tokenId : String} (user : User)
    (kind : TokenKind) (hmin : minInt64 ≤ now) (hmax : now ≤ maxInt64) :
    p.Describes (p.issue now tokenId user.id kind (supplement user kind)) user kind := by
  have hextra := supplement_supplement user kind
  refine ⟨_, TokenProvider.open?_issue hmin hmax hextra.toExtraClaims, ?_⟩
  have hkeys : [Claims.nameKey, Claims.rolesKey].Nodup := by decide
  have hnodup : ((sessionClaims user).map Prod.fst).Nodup := by
    rw [sessionClaims_eq]
    exact hkeys
  -- The claims about the account are among the extra ones, which replace all others.
  have hget : ∀ key value, (key, value) ∈ sessionClaims user →
      Json.Fields.get? (p.claims now tokenId user.id .access (supplement user .access)) key =
        some value := fun _ _ hmem => Json.Fields.get?_merge_of_mem hnodup hmem
  refine ⟨⟨_, TokenProvider.names_claims hextra⟩, ?_, ?_⟩
  · rintro rfl
    have hroles := hget Claims.rolesKey (.array [.string user.role.name])
      (by simp [sessionClaims_eq])
    rw [Claims.roles, hroles]
    rfl
  · rintro rfl
    exact hget Claims.nameKey (.string user.name) (by simp [sessionClaims_eq])

/-! ## The invariant -/

/-- Every token on record, expired or not, is one for an account that is there. -/
structure Truthful (s : System) : Prop where
  keyed : s.users.Keyed
  inCalendar : s.now.inCalendar = true
  held : ∀ slot token, s.sessions.holds? slot = some token →
    ∃ user, s.users.findById slot.user = some user ∧ s.provider.Describes token user slot.kind

/-- What holds besides while a request is worked on: the accounts that it has been shown are
there, the tokens that it has signed are for them, and the slots that it has cleared are empty. -/
structure Upright (r : Request) (past : List Exchange) (s : System) : Prop extends
    Truthful s where
  seen : ∀ x ∈ past, ∀ user, x.seen? = some user →
    ∃ other, s.users.findById user.id = some other ∧ user.Alike other
  signed : ∀ id kind extra token, ⟨.signToken id kind extra, .ok token⟩ ∈ past →
    ∃ user, (∃ x ∈ past, x.seen? = some user) ∧ user.id = id ∧ s.provider.Describes token user kind
  cleared : ∀ slot, ⟨.deleteSession slot, .ok ()⟩ ∈ past →
    r.Revokes slot.user ∧ s.sessions.holds? slot = none

/-- A request that has just come in. -/
theorem Truthful.upright {s : System} (h : Truthful s) (r : Request) : Upright r [] s where
  toTruthful := h
  seen := fun _ hx => absurd hx List.not_mem_nil
  signed := fun _ _ _ _ hx => absurd hx List.not_mem_nil
  cleared := fun _ hx => absurd hx List.not_mem_nil

theorem Truthful.later {s s' : System} (h : Truthful s) (hlater : s.Later s') : Truthful s' where
  keyed := by
    rw [hlater.users]
    exact h.keyed
  inCalendar := hlater.inCalendar
  held := by
    rw [hlater.users, hlater.sessions, hlater.provider]
    exact h.held

section Steps

variable {r : Request} {past : List Exchange} {x : Exchange} {s s' : System}

theorem Upright.later (h : Upright r past s) (hlater : s.Later s') : Upright r past s' where
  toTruthful := h.toTruthful.later hlater
  seen := by
    rw [hlater.users]
    exact h.seen
  signed := by
    rw [hlater.provider]
    exact h.signed
  cleared := by
    rw [hlater.sessions]
    exact h.cleared

theorem mem_snoc_iff {y : Exchange} : y ∈ past ++ [x] ↔ y ∈ past ∨ y = x := by
  rw [List.mem_append, List.mem_singleton]

theorem seen?_eq_none_of_error? {e : ServiceError} (h : x.error? = some e) : x.seen? = none := by
  obtain ⟨c, a⟩ := x
  cases c with
  | findByUsername _ | findById _ | updatePassword _ _ _ =>
    rcases a with d | b
    · rfl
    · exact absurd h (by simp [Exchange.error?])
  | _ => rfl

/-- A call that has failed has done nothing. -/
theorem Upright.failed {e : ServiceError} (h : Upright r past s) (he : x.error? = some e) :
    Upright r (past ++ [x]) s where
  toTruthful := h.toTruthful
  seen := by
    intro y hy user huser
    rcases mem_snoc_iff.mp hy with hy | rfl
    · exact h.seen y hy user huser
    · rw [seen?_eq_none_of_error? he] at huser
      exact absurd huser (by simp)
  signed := by
    intro id kind extra token hmem
    rcases mem_snoc_iff.mp hmem with hmem | rfl
    · obtain ⟨user, ⟨y, hy, hseen⟩, hid, hdescribes⟩ := h.signed id kind extra token hmem
      exact ⟨user, ⟨y, List.mem_append_left _ hy, hseen⟩, hid, hdescribes⟩
    · exact absurd he (by simp [Exchange.error?])
  cleared := by
    intro slot hmem
    rcases mem_snoc_iff.mp hmem with hmem | rfl
    · exact h.cleared slot hmem
    · exact absurd he (by simp [Exchange.error?])

/-- When an account is deleted, no accounts have been shown before, and its slots are empty. -/
theorem Upright.of_softDelete {id : UserId} {at' : Instant} (h : Upright r past s)
    (hconduct : r.Conduct past (.softDelete id at')) :
    (∀ y ∈ past, y.seen? = none) ∧ ∀ kind, s.sessions.holds? ⟨id, kind⟩ = none := by
  obtain ⟨caller, now, rfl, rfl, rfl⟩ := hconduct
  constructor
  · simp [Request.clearing, Exchange.seen?]
  · intro kind
    have hmem : (⟨.deleteSession ⟨caller.id, kind⟩, .ok ()⟩ : Exchange) ∈
        Request.clearing caller.id ++ [⟨.readClock, now⟩] := by
      cases kind <;> simp [Request.clearing]
    exact (h.cleared _ hmem).2

/-- What has been shown is still there after a call, and what the call shows is there as well. -/
theorem Upright.seen_of_serve (h : Upright r past s) (hconduct : r.Conduct past x.call)
    (hserve : s.serve x.call = some (x.answer, s')) {y : Exchange} (hy : y ∈ past ++ [x])
    {user : User} (huser : y.seen? = some user) :
    ∃ other, s'.users.findById user.id = some other ∧ user.Alike other := by
  rcases mem_snoc_iff.mp hy with hy | rfl
  · obtain ⟨u, hu, halike⟩ := h.seen y hy user huser
    have hcall : ∀ at', x.call ≠ .softDelete user.id at' := by
      intro at' hcall
      rw [hcall] at hconduct
      have hnone := (h.of_softDelete hconduct).1 y hy
      exact absurd (hnone.symm.trans huser) (by simp)
    obtain ⟨v, hv, halike'⟩ := System.serve_findById hserve hu hcall
    exact ⟨v, hv, halike.trans halike'⟩
  · exact ⟨user, System.serve_seen hserve h.keyed huser, User.Alike.refl user⟩

/-- A token that is on record after a call is for an account that is there then. -/
theorem Upright.held_of_serve (h : Upright r past s) (hconduct : r.Conduct past x.call)
    (hserve : s.serve x.call = some (x.answer, s')) {slot : Slot} {token : String}
    (hholds : s'.sessions.holds? slot = some token) :
    ∃ user, s'.users.findById slot.user = some user ∧
      s'.provider.Describes token user slot.kind := by
  rw [(System.serve_sameClocks hserve).provider]
  rcases System.serve_holds? hserve hholds with hbefore | hsaves
  · obtain ⟨u, hu, hdescribes⟩ := h.held slot token hbefore
    have hcall : ∀ at', x.call ≠ .softDelete slot.user at' := by
      intro at' hcall
      rw [hcall] at hconduct
      have hnone := (h.of_softDelete hconduct).2 slot.kind
      exact absurd (hnone.symm.trans hbefore) (by simp)
    obtain ⟨v, hv, halike⟩ := System.serve_findById hserve hu hcall
    exact ⟨v, hv, hdescribes.alike halike⟩
  · -- The token has been signed for an account that the request has been shown.
    obtain ⟨c, a⟩ := x
    cases c with
    | saveSession session ttl =>
      obtain rfl := Option.some.inj hsaves
      obtain ⟨-, extra, hmem⟩ := hconduct
      obtain ⟨user, ⟨y, hy, hseen⟩, hid, hdescribes⟩ := h.signed _ _ _ _ hmem
      obtain ⟨v, hv, halike⟩ := h.seen y hy user hseen
      rw [hid] at hv
      obtain ⟨w, hw, halike'⟩ := System.serve_findById hserve hv (by simp)
      exact ⟨w, hw, hdescribes.alike (halike.trans halike')⟩
    | _ => exact absurd hsaves (by simp [Call.saves?])

theorem Upright.signed_of_serve (h : Upright r past s) (hconduct : r.Conduct past x.call)
    (hserve : s.serve x.call = some (x.answer, s')) {id : UserId} {kind : TokenKind}
    {extra : Claims} {token : String} (hmem : ⟨.signToken id kind extra, .ok token⟩ ∈ past ++ [x]) :
    ∃ user, (∃ y ∈ past ++ [x], y.seen? = some user) ∧ user.id = id ∧
      s'.provider.Describes token user kind := by
  rw [(System.serve_sameClocks hserve).provider]
  rcases mem_snoc_iff.mp hmem with hmem | rfl
  · obtain ⟨user, ⟨y, hy, hseen⟩, hid, hdescribes⟩ := h.signed id kind extra token hmem
    exact ⟨user, ⟨y, List.mem_append_left _ hy, hseen⟩, hid, hdescribes⟩
  · obtain ⟨user, hknows, rfl, rfl⟩ := hconduct
    obtain ⟨y, hy, hseen⟩ := hknows.seen
    obtain ⟨htoken, -⟩ := Prod.mk.inj (Option.some.inj hserve)
    obtain rfl := Except.ok.inj htoken
    obtain ⟨hmin, hmax⟩ := Instant.bounds_of_inCalendar h.inCalendar
    exact ⟨user, ⟨y, List.mem_append_left _ hy, hseen⟩, rfl,
      describes_issue user kind hmin (Int.le_of_lt hmax)⟩

theorem Upright.cleared_of_serve (h : Upright r past s) (hconduct : r.Conduct past x.call)
    (hserve : s.serve x.call = some (x.answer, s')) {slot : Slot}
    (hmem : ⟨.deleteSession slot, .ok ()⟩ ∈ past ++ [x]) :
    r.Revokes slot.user ∧ s'.sessions.holds? slot = none := by
  rcases mem_snoc_iff.mp hmem with hmem | rfl
  · obtain ⟨hrevokes, hnone⟩ := h.cleared slot hmem
    refine ⟨hrevokes, Option.eq_none_iff_forall_ne_some.mpr fun token hholds => ?_⟩
    rcases System.serve_holds? hserve hholds with hbefore | hsaves
    · exact absurd (hnone.symm.trans hbefore) (by simp)
    · -- A request that clears slots puts nothing on record.
      obtain ⟨c, a⟩ := x
      cases c with
      | saveSession session ttl =>
        obtain ⟨⟨user, hknows, -⟩, -⟩ := hconduct
        exact hknows.not_revokes slot.user hrevokes
      | _ => exact absurd hsaves (by simp [Call.saves?])
  · obtain ⟨-, rfl⟩ := Prod.mk.inj (Option.some.inj hserve)
    refine ⟨hconduct, ?_⟩
    rw [SessionStore.holds?_delete, if_pos rfl]

/-- **Every call of a request keeps the invariant up**, and so does the passing of time. -/
theorem invariant_upright (faulty : ServiceError → Prop) (r : Request) :
    Invariant faulty r.Conduct (Upright r) where
  later := Upright.later
  reply := by
    rintro past s x s' h hconduct (hserve | ⟨rfl, e, he, -⟩)
    · refine ⟨⟨?_, ?_, ?_⟩, ?_, ?_, ?_⟩
      · exact System.serve_keyed hserve h.keyed
      · rw [(System.serve_sameClocks hserve).now]
        exact h.inCalendar
      · exact fun slot token => h.held_of_serve hconduct hserve
      · exact fun y hy user => h.seen_of_serve hconduct hserve hy
      · exact fun id kind extra token => h.signed_of_serve hconduct hserve
      · exact fun slot => h.cleared_of_serve hconduct hserve
    · exact h.failed he

end Steps

/-! ## After a course -/

/-- Nobody has logged in yet. -/
structure Unused (s : System) : Prop where
  keyed : s.users.Keyed
  inCalendar : s.now.inCalendar = true
  sessions : s.sessions = .empty

theorem unused_system : Unused Sample.system :=
  ⟨by simp [UserTable.Keyed, Sample.system], by decide, rfl⟩

theorem Unused.truthful {s : System} (h : Unused s) : Truthful s where
  keyed := h.keyed
  inCalendar := h.inCalendar
  held := by
    intro slot token hholds
    rw [h.sessions, SessionStore.holds?_empty] at hholds
    exact absurd hholds (by simp)

variable {faulty : ServiceError → Prop} {s₀ s s' : System}

/-- Whatever a request has got to, the tokens on record tell the truth. -/
theorem Truthful.through {r : Request} {log : List Exchange}
    {rest : Flow (Except ServiceError r.Result)} (h : Truthful s)
    (hreaches : (ExceptT.run r.operation).Reaches log rest) (hthrough : s.Through faulty log s') :
    Upright r log s' :=
  (r.ends_operation.flow.through (invariant_upright faulty r) hreaches hthrough (h.upright r)).2

theorem truthful_of_course (hunused : Unused s₀) (h : Course faulty s₀ s) : Truthful s := by
  induction h with
  | start => exact hunused.truthful
  | request _ reaches through ih => exact (ih.through reaches through).toTruthful
  | pass _ later ih => exact ih.later later

/-- A token that has been accepted opens to the caller's claims, and it is still on record. -/
theorem holds?_of_validate {raw : String} {caller : Caller}
    (h : (validate raw).Yields faulty s (.ok caller) s') :
    Token.open? s'.provider.key (bareToken raw) = some caller.claims ∧
      caller.claims.subject = .ok caller.id ∧
      s'.sessions.holds? ⟨caller.id, .access⟩ = some (bareToken raw) := by
  obtain ⟨log, hreaches, hthrough⟩ := h
  have hpost := (Request.along_validate raw).flow.of_done hreaches hthrough caller rfl
  obtain ⟨hsubject, session, htoken, rfl⟩ := hpost
  obtain ⟨s₁, s₂, hstart, hverify, hrest⟩ := hthrough.head
  obtain ⟨s₃, s₄, hwait, hget, hend⟩ := hrest.head
  -- Both answers are the collaborators' own.
  have hverified : s₁.serve (.verifyToken (bareToken raw)) = some (.ok caller.claims, s₂) :=
    hverify.serve rfl
  have hread : s₃.serve (.getSession ⟨caller.id, .access⟩) = some (.ok (some session), s₄) :=
    hget.serve rfl
  obtain ⟨hanswer, -⟩ := Prod.mk.inj (Option.some.inj hverified)
  obtain ⟨hopen, -⟩ := TokenProvider.verify_eq_ok_iff.mp (mapError_eq_ok_iff.mp hanswer)
  have hlive := System.live?_of_serve_get hread
  have hsame : s₄ = s₃ := by
    rw [serve_get_of_live? hlive] at hread
    exact (Prod.mk.inj (Option.some.inj hread)).2.symm
  have hprovider : s'.provider = s₁.provider := by
    rw [hend.onward.provider, hsame, hwait.onward.provider]
    exact (System.serve_sameClocks hverified).provider
  refine ⟨by rw [hprovider, hopen], hsubject, ?_⟩
  rw [hend.of_nil.2, hsame, ← htoken]
  exact SessionStore.holds?_of_live? hlive

/-- **Who is behind a token that is accepted.** Requests have been answered one after another, any
call has failed, and any request has been dropped: whenever a validation returns a caller, there is
an account under the caller's id, and the caller's claims give its role, its name and its id. The
token was issued for this account, so it was for none that was deleted before. -/
theorem account_of_validate (hunused : Unused s₀) (h : Course faulty s₀ s) {raw : String}
    {caller : Caller} (hyields : (validate raw).Yields faulty s (.ok caller) s') :
    (∃ user, s'.users.findById caller.id = some user ∧ user.isDeleted = false ∧
      caller.roles = [user.role.name] ∧
      caller.claims.get? Claims.nameKey = some (.string user.name) ∧
      caller.claims.get? Claims.userIdKey = some (.string caller.id.text) ∧
      caller.claims.get? Claims.subjectKey = some (.string caller.id.text)) ∧
    presentedUser? s'.provider raw = some caller.id ∧
    ∀ s₁ id, Course faulty s₀ s₁ → Course faulty s₁ s → s₁.users.Deleted id → caller.id ≠ id := by
  obtain ⟨hopen, hsubject, hholds⟩ := holds?_of_validate hyields
  have htruthful : Truthful s' := truthful_of_course hunused (h.yields (r := .validate raw) hyields)
  obtain ⟨user, hfound, claims, hopen', hdescribe⟩ := htruthful.held _ _ hholds
  obtain rfl : caller.claims = claims := Option.some.inj (hopen.symm.trans hopen')
  obtain ⟨hlive, hid⟩ := UserTable.findById_spec hfound
  obtain ⟨expires, hnames⟩ := hdescribe.names
  have hid : user.id = caller.id := hid
  rw [hid] at hnames
  refine ⟨⟨user, hfound, (UserTable.mem_live.mp hlive).2, hdescribe.roles rfl,
    hdescribe.name rfl, hnames.userId, hnames.subject⟩, ?_, ?_⟩
  · rw [presentedUser?, hopen, Option.bind_some, hsubject]
    rfl
  · rintro s₁ id - hlater hdeleted rfl
    have hgone : s'.users.Deleted caller.id :=
      (hlater.yields (r := .validate raw) hyields).deleted hdeleted
    exact hgone.not_hasLive ⟨user, hlive, hid⟩

theorem account_of_loggedIn : ∃ caller, Unused Sample.system ∧
    Course (fun e => e.isInfrastructure = true) Sample.system Sample.loggedIn ∧
    (validate Sample.pair.access).Yields (fun e => e.isInfrastructure = true) Sample.loggedIn
      (.ok caller) Sample.loggedIn ∧
    ∃ user, Sample.loggedIn.users.findById caller.id = some user ∧
      caller.roles = [user.role.name] := by
  obtain ⟨calls, hlogin⟩ := Operation.exists_run_of_settle Sample.settle_login
  have hcourse : Course (fun e => e.isInfrastructure = true) Sample.system Sample.loggedIn :=
    Course.start.yields (r := .login "alice" "secret123")
      (Operation.yields_of_run (Plan.fails_none _) hlogin)
  obtain ⟨claims, haccepts⟩ := Sample.accepts_pair .access
  obtain ⟨calls', hvalidate⟩ :=
    Operation.exists_run_of_settle (settle_validate_of_accepts haccepts)
  have hyields := Operation.yields_of_run
    (Plan.fails_none fun e => e.isInfrastructure = true) hvalidate
  obtain ⟨⟨user, hfound, -, hroles, -⟩, -⟩ := account_of_validate unused_system hcourse hyields
  exact ⟨_, unused_system, hcourse, hyields, user, hfound, hroles⟩

end Service

end SessionAuth
