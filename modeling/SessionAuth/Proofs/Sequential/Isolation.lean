import SessionAuth.Proofs.Sequential.Effect
import SessionAuth.Proofs.Service.History

/-!
# Users do not meet

Every request is made for one user at most, and the calls that it makes are about that user's
account and slots. So all other users keep their rows and what is in their slots, wherever the
request has got to, and their tokens are accepted as they would be without it.

* `Request.subject?`: the user that a request is made for.
* `Apart`: what holds about another user while a request is worked on; `invariant_apart` says that
  every call keeps it up.
* `agrees_validate`, `agrees_checkRefresh`: an answer hangs on one slot only.
* `others_untouched`: the rows, the slots and the answers of all other users.
-/

namespace SessionAuth

namespace Service

/-! ## The user that a request is made for -/

/-- The user that a request is made for: the new one, the one with the username, the one that the
presented token names, or the one who asks. -/
def Request.subject? (s : System) : Request → Option UserId
  | register _ => UserId.ofNat? (s.users.lastId + 1)
  | login username _ => (Username.ofText username).toOption.bind fun name =>
      (s.users.findByUsername name).map (·.id)
  | validate raw | refresh raw => presentedUser? s.provider raw
  | logout user => some user
  | changePassword caller _ _ | softDelete caller | profile caller => some caller.id

/-- What has been kept up for a user whom a request is not made for. -/
structure Apart (r : Request) (s₀ : System) (other : UserId) (past : List Exchange) (s : System) :
    Prop where
  onward : System.Onward s₀ s
  rows : s.users.rowsOf other = s₀.users.rowsOf other
  slots : ∀ kind, System.Kept s₀ s ⟨other, kind⟩
  /-- As long as no account has been changed, the accounts are the ones from before. -/
  users : (∀ x ∈ past, x.Harmless ∨ ¬ x.call.Rewrites) → s.users = s₀.users
  conducted : ∀ x ∈ past, ∃ before, r.Conduct before x.call
  verified : ∀ token claims, ⟨.verifyToken token, .ok claims⟩ ∈ past →
    Token.open? s₀.provider.key token = some claims
  found : ∀ username password, r = .login username password → ∀ name user,
    ⟨.findByUsername name, .ok (some user)⟩ ∈ past → s₀.users.findByUsername name = some user

section Steps

variable {r : Request} {s₀ s s' : System} {other id : UserId} {past : List Exchange} {x : Exchange}

theorem apart_start (r : Request) (s : System) (other : UserId) : Apart r s other [] s where
  onward := System.Onward.refl s
  rows := rfl
  slots := fun kind => System.Kept.refl s ⟨other, kind⟩
  users := fun _ => rfl
  conducted := fun _ hx => absurd hx List.not_mem_nil
  verified := fun _ _ hx => absurd hx List.not_mem_nil
  found := fun _ _ _ _ _ hx => absurd hx List.not_mem_nil

/-- A request issues tokens for the user that it is made for. -/
theorem Apart.subject_of_knows (h : Apart r s₀ other past s) {user : User}
    (hknows : r.Knows past user) : r.subject? s₀ = some user.id := by
  cases r with
  | login username password =>
    obtain ⟨name, hname, hfound⟩ := hknows
    have hbefore := h.found username password rfl name user hfound
    simp only [Request.subject?, hname, Except.toOption, Option.bind_some, hbefore, Option.map_some]
  | refresh raw =>
    obtain ⟨-, claims, hverified, hsubject⟩ := hknows
    have hopen := h.verified _ claims hverified
    simp only [Request.subject?, presentedUser?, hopen, Option.bind_some, hsubject, Except.toOption]
  | changePassword caller current new =>
    obtain ⟨hid, -⟩ := hknows
    exact congrArg some hid.symm
  | register _ | validate _ | logout _ | softDelete _ | profile _ => exact hknows.elim

theorem subject_of_revokes (h : r.Revokes id) : r.subject? s₀ = some id := by
  cases r with
  | logout user => exact congrArg some h
  | softDelete caller => exact congrArg some h
  | register _ | login _ _ | validate _ | refresh _ | changePassword _ _ _ | profile _ =>
    exact h.elim

/-- The account that a call is about is that of the user whom the request is made for. -/
theorem Apart.subject_of_account? (h : Apart r s₀ other past s) (hconduct : r.Conduct past x.call)
    (hid : x.call.account? s = some id) : r.subject? s₀ = some id := by
  obtain ⟨c, a⟩ := x
  cases c with
  | insertUser n =>
    obtain ⟨⟨registration, rfl⟩, hharmless⟩ := hconduct
    have husers : s.users = s₀.users := h.users fun x hx => Or.inl (hharmless x hx)
    rw [Call.account?, husers] at hid
    exact hid
  | updatePassword other hash at' =>
    obtain ⟨caller, current, new, rfl, hcaller⟩ := hconduct
    exact (congrArg some hcaller).trans hid
  | softDelete other at' =>
    obtain ⟨caller, now, rfl, hcaller, -⟩ := hconduct
    exact (congrArg some hcaller).trans hid
  | _ => exact absurd hid (by simp [Call.account?])

/-- The slot that a call is about is one of the user whom the request is made for. -/
theorem Apart.subject_of_slot? (h : Apart r s₀ other past s) (hconduct : r.Conduct past x.call)
    {slot : Slot} (hslot : x.call.slot? = some slot) : r.subject? s₀ = some slot.user := by
  obtain ⟨c, a⟩ := x
  cases c with
  | saveSession session ttl =>
    obtain ⟨⟨user, hknows, hid⟩, -⟩ := hconduct
    obtain rfl := Option.some.inj hslot
    rw [h.subject_of_knows hknows, hid]
    rfl
  | deleteSession other =>
    obtain rfl := Option.some.inj hslot
    exact subject_of_revokes hconduct
  | _ => exact absurd hslot (by simp [Call.slot?])

/-- A login changes no account, so it finds what was there before. -/
theorem Apart.users_of_login (h : Apart r s₀ other past s) {username password : String}
    (hr : r = .login username password) : s.users = s₀.users := by
  apply h.users
  intro x hx
  right
  obtain ⟨before, hconduct⟩ := h.conducted x hx
  intro hrewrites
  subst hr
  obtain ⟨c, a⟩ := x
  cases c with
  | insertUser n =>
    obtain ⟨⟨registration, hr⟩, -⟩ := hconduct
    exact absurd hr (by simp)
  | updatePassword id hash at' =>
    obtain ⟨caller, current, new, hr, -⟩ := hconduct
    exact absurd hr (by simp)
  | softDelete id at' =>
    obtain ⟨caller, now, hr, -⟩ := hconduct
    exact absurd hr (by simp)
  | _ => exact hrewrites

/-- **Every call of a request leaves all other users alone**, and so does the passing of time. -/
theorem invariant_apart (faulty : ServiceError → Prop) {r : Request} {s₀ : System} {other : UserId}
    (hother : r.subject? s₀ ≠ some other) :
    Invariant faulty r.Conduct (Apart r s₀ other) where
  later := by
    intro past s s' h hlater
    refine ⟨h.onward.trans hlater.onward, ?_, ?_, ?_, h.conducted, h.verified, h.found⟩
    · rw [hlater.users]
      exact h.rows
    · exact fun kind => (h.slots kind).trans hlater.uptime (hlater.kept _)
    · rw [hlater.users]
      exact h.users
  reply := by
    intro past s x s' h hconduct hreplies
    have hclocks := hreplies.sameClocks
    refine ⟨h.onward.trans hclocks.onward, ?_, ?_, ?_, ?_, ?_, ?_⟩
    · rw [← h.rows]
      rcases hreplies with hserve | ⟨rfl, -⟩
      · apply System.serve_rowsOf hserve
        rintro id hid rfl
        exact hother (h.subject_of_account? hconduct hid)
      · rfl
    · intro kind
      have huntouched : System.Untouched s s' ⟨other, kind⟩ := by
        apply hreplies.untouched
        intro hslot
        exact hother (h.subject_of_slot? hconduct hslot)
      exact (h.slots kind).trans hclocks.onward.uptime (huntouched.kept hclocks)
    · intro hpast
      have hfirst := h.users fun y hy => hpast y (List.mem_append_left _ hy)
      rcases hpast x (List.mem_append_right _ (List.mem_singleton_self x)) with hharmless | hwrites
      · exact (hreplies.harmless hharmless).1.trans hfirst
      · exact (hreplies.users hwrites).trans hfirst
    · intro y hy
      rcases List.mem_append.mp hy with hy | hy
      · exact h.conducted y hy
      · obtain rfl := List.mem_singleton.mp hy
        exact ⟨past, hconduct⟩
    · intro token claims hmem
      rcases List.mem_append.mp hmem with hmem | hmem
      · exact h.verified token claims hmem
      · obtain rfl := List.mem_singleton.mp hmem
        obtain ⟨hanswer, -⟩ := Prod.mk.inj (Option.some.inj (hreplies.serve rfl))
        obtain ⟨hopen, -⟩ := TokenProvider.verify_eq_ok_iff.mp (mapError_eq_ok_iff.mp hanswer)
        rw [h.onward.provider] at hopen
        exact hopen
    · intro username password hr name user hmem
      rcases List.mem_append.mp hmem with hmem | hmem
      · exact h.found username password hr name user hmem
      · obtain rfl := List.mem_singleton.mp hmem
        obtain ⟨hanswer, -⟩ := Prod.mk.inj (Option.some.inj (hreplies.serve rfl))
        rw [← h.users_of_login hr]
        exact Except.ok.inj hanswer

end Steps

/-! ## Answers about one user -/

/-- Two systems that answer alike about a user: the provider and its clock are the same, and so is
the token in the slot. -/
structure SameSlot (s s' : System) (kind : TokenKind) (raw : String) : Prop where
  provider : s'.provider = s.provider
  now : s'.now = s.now
  live : ∀ user, presentedUser? s.provider raw = some user →
    s'.live? ⟨user, kind⟩ = s.live? ⟨user, kind⟩

section Answers

open Operation

variable {s s' : System} {raw : String}

/-- The operation returns the same in two systems. -/
def Agrees {α : Type} (op : Operation α) (s s' : System) : Prop :=
  ∃ r s₁ s₂, op.settle s = some (r, s₁) ∧ op.settle s' = some (r, s₂)

theorem Agrees.ending {α : Type} {op : Operation α} (h : Agrees op s s') :
    (op.run Plan.none s').ending = (op.run Plan.none s).ending := by
  obtain ⟨r, s₁, s₂, hsettle, hsettle'⟩ := h
  rw [(settle_eq_some_iff.mp hsettle).1, (settle_eq_some_iff.mp hsettle').1]

theorem agrees_lookup {α : Type} {kind : TokenKind} (h : SameSlot s s' kind raw) {claims : Claims}
    (hverify : s.provider.verify s.now.seconds (bareToken raw) = .ok claims)
    {check : Except ServiceError (Option Session) → Operation (Option Session)}
    (hcheck : ∀ stored s, (check (.ok stored)).settle s = some (.ok stored, s)) (f : UserId → α) :
    Agrees (do
      let user ← ofResult (claims.subject.mapError .auth)
      let stored ← check (← ask (.getSession ⟨user, kind⟩))
      if stored.any (·.isFor (bareToken raw)) then return f user
      else throw (.auth .tokenMismatch)) s s' := by
  have hne := TokenProvider.ne_empty_of_verify hverify
  obtain ⟨s₁, hsettle, -⟩ := settle_lookup_eq s hne claims kind hcheck f
  obtain ⟨s₂, hsettle', -⟩ := settle_lookup_eq s' hne claims kind hcheck f
  refine ⟨_, s₁, s₂, hsettle, ?_⟩
  rw [hsettle']
  cases hsubject : claims.subject with
  | error e => rfl
  | ok user =>
    have huser : presentedUser? s.provider raw = some user := by
      obtain ⟨hopen, -⟩ := TokenProvider.verify_eq_ok_iff.mp hverify
      rw [presentedUser?, hopen, Option.bind_some, hsubject]
      rfl
    simp only [h.live user huser]

/-- The token is verified first, and by the same provider at the same time. -/
theorem agrees_verify {α : Type} {kind : TokenKind} (h : SameSlot s s' kind raw)
    {next : (Call.verifyToken (bareToken raw)).Answer → Operation α}
    (hbad : ∀ e, Agrees (next (.error (.auth e))) s s')
    (hgenuine : ∀ claims, s.provider.verify s.now.seconds (bareToken raw) = .ok claims →
      Agrees (next (.ok claims)) s s') :
    Agrees (ask (.verifyToken (bareToken raw)) >>= next) s s' := by
  have hsame : s'.provider.verify s'.now.seconds (bareToken raw) =
      s.provider.verify s.now.seconds (bareToken raw) := by
    rw [h.provider, h.now]
  have hserve := serve_verify hsame
  have hserve' : s.serve (.verifyToken (bareToken raw)) = some (_, s) := serve_verify rfl
  have hnext : Agrees
      (next ((s.provider.verify s.now.seconds (bareToken raw)).mapError .auth)) s s' := by
    cases hverify : s.provider.verify s.now.seconds (bareToken raw) with
    | error e => exact hbad e
    | ok claims => exact hgenuine claims hverify
  obtain ⟨r, s₁, s₂, hsettle, hsettle'⟩ := hnext
  exact ⟨r, s₁, s₂, (settle_bind_ok (settle_ask hserve') _).trans hsettle,
    (settle_bind_ok (settle_ask hserve) _).trans hsettle'⟩

/-- **What a validation answers hangs on one slot**: that of the user whom the token names. -/
theorem agrees_validate (h : SameSlot s s' .access raw) : Agrees (validate raw) s s' := by
  unfold validate
  apply agrees_verify h
  · exact fun e => ⟨.error (.auth .invalidToken), s, s', rfl, rfl⟩
  · intro claims hverify
    exact agrees_lookup h hverify
      (fun stored s => settle_orFailed "error to retrieve session" (.ok stored) s)
      fun user => Caller.mk user claims

theorem agrees_checkRefresh (h : SameSlot s s' .refresh raw) :
    Agrees (checkRefresh raw) s s' := by
  unfold checkRefresh
  apply agrees_verify h
  · intro e
    exact ⟨.error (.auth e), s, s', settle_bind_error (settle_ofResult _ _) _,
      settle_bind_error (settle_ofResult _ _) _⟩
  · intro claims hverify
    obtain ⟨r, s₁, s₂, hsettle, hsettle'⟩ := agrees_lookup h hverify
      (fun stored s => settle_ofResult (.ok stored) s) fun user => user
    refine ⟨r, s₁, s₂, ?_, ?_⟩
    · rw [settle_bind_ok (settle_ofResult _ _), hsettle]
    · rw [settle_bind_ok (settle_ofResult _ _), hsettle']

end Answers

/-! ## All other users -/

/-- The system with the clocks of another one. -/
def atClocksOf (s' s : System) : System :=
  { s with now := s'.now, clockAhead := s'.clockAhead, uptime := s'.uptime }

theorem sameSlot_atClocksOf {s s' : System} {kind : TokenKind} {raw : String}
    (honward : System.Onward s s') (hkept : ∀ user, presentedUser? s.provider raw = some user →
      System.Kept s s' ⟨user, kind⟩) : SameSlot (atClocksOf s' s) s' kind raw where
  provider := honward.provider
  now := rfl
  live := fun user huser => hkept user huser s'.uptime (Nat.le_refl _)

/-- **Users do not meet.** Whatever a request has got to, and whether or not collaborators have
failed: all users but the one whom it is made for have the rows and the tokens on record that they
had before. So validating a token of theirs, or checking it for a refresh, ends as it would at the
same time without the request. -/
theorem others_untouched {faulty : ServiceError → Prop} {s s' : System} {r : Request}
    {log : List Exchange} {rest : Flow (Except ServiceError r.Result)}
    (hreaches : (ExceptT.run r.operation).Reaches log rest) (hthrough : s.Through faulty log s') :
    (∀ other, r.subject? s ≠ some other → s'.users.rowsOf other = s.users.rowsOf other ∧
      ∀ kind, System.Kept s s' ⟨other, kind⟩) ∧
    ∀ raw, (∀ other, presentedUser? s.provider raw = some other → r.subject? s ≠ some other) →
      ((validate raw).run Plan.none s').ending =
        ((validate raw).run Plan.none (atClocksOf s' s)).ending ∧
      ((checkRefresh raw).run Plan.none s').ending =
        ((checkRefresh raw).run Plan.none (atClocksOf s' s)).ending := by
  have hapart : ∀ other, r.subject? s ≠ some other → Apart r s other log s' := fun other hother =>
    (r.ends_operation.flow.through (invariant_apart faulty hother) hreaches hthrough
      (apart_start r s other)).2
  refine ⟨fun other hother => ⟨(hapart other hother).rows, (hapart other hother).slots⟩, ?_⟩
  intro raw hraw
  have hsame : ∀ kind, SameSlot (atClocksOf s' s) s' kind raw := by
    intro kind
    apply sameSlot_atClocksOf hthrough.onward
    intro user huser
    exact (hapart user (hraw user huser)).slots kind
  exact ⟨(agrees_validate (hsame .access)).ending, (agrees_checkRefresh (hsame .refresh)).ending⟩

end Service

namespace Sample

/-- Another account with the same password. -/
def carol : User where
  id := ⟨3, by decide, by decide⟩
  username := ⟨"carol", by decide, by decide⟩
  name := "Carol"
  email := ⟨"carol@example.com", by decide⟩
  passwordHash := alice.passwordHash
  role := .user
  createdAt := ⟨0, 0⟩
  updatedAt := ⟨0, 0⟩
  deletedAt := none

/-- A system with both accounts, after Alice has logged in. -/
def shared : System := { loggedIn with users := ⟨[alice, carol]⟩ }

theorem settle_loginCarol : (Service.login "carol" "secret123").settle shared =
    some (.ok ⟨carol.view, (shared.openSession carol).1⟩, (shared.openSession carol).2) := by
  have hname : Username.ofText "carol" = .ok carol.username := by decide
  have hfind : shared.users.findByUsername carol.username = some carol := by decide
  have hsteady : shared.Steady := ⟨rfl, by decide, by decide, steady_loggedIn.ttl⟩
  have hroom : shared.Room := room_loggedIn
  rw [Service.login, Operation.settle_bind_ok
    (Service.settle_authenticate_of_found hname hfind check_alice),
    Operation.settle_bind_ok (Service.settle_issueSession hsteady hroom carol)]
  rfl

end Sample

namespace Service

/-- A login of Carol puts two tokens on record and leaves Alice with all that she has. -/
theorem owner_untouched : ∃ log s',
    (ExceptT.run (Request.login "carol" "secret123").operation).Reaches log
      (.done (.ok ⟨Sample.carol.view, (Sample.shared.openSession Sample.carol).1⟩)) ∧
    Sample.shared.Through (fun _ => True) log s' ∧
    (Request.login "carol" "secret123").subject? Sample.shared ≠ some Sample.alice.id ∧
    s'.users.rowsOf Sample.alice.id = [Sample.alice] ∧
    (∀ kind, System.Kept Sample.shared s' ⟨Sample.alice.id, kind⟩) ∧
    ((validate Sample.pair.access).run Plan.none s').ending =
      ((validate Sample.pair.access).run Plan.none (atClocksOf s' Sample.shared)).ending ∧
    ((checkRefresh Sample.pair.refresh).run Plan.none s').ending =
      ((checkRefresh Sample.pair.refresh).run Plan.none (atClocksOf s' Sample.shared)).ending := by
  let r : Request := .login "carol" "secret123"
  obtain ⟨calls, hrun⟩ := Operation.exists_run_of_settle Sample.settle_loginCarol
  obtain ⟨log, hreaches, hthrough⟩ :=
    Operation.yields_of_run (Plan.fails_none fun _ => True) hrun
  have hsubject : r.subject? Sample.shared ≠ some Sample.alice.id := by decide
  obtain ⟨hothers, hanswers⟩ := others_untouched (r := r) hreaches hthrough
  have hspared : ∀ kind other, presentedUser? Sample.shared.provider (Sample.pair.token kind) =
      some other → r.subject? Sample.shared ≠ some other := by
    intro kind other hother
    obtain ⟨claims, haccepts⟩ := Sample.accepts_pair kind
    have hpresented := presentedUser?_of_accepts haccepts
    obtain rfl := Option.some.inj (hpresented.symm.trans hother)
    exact hsubject
  exact ⟨log, _, hreaches, hthrough, hsubject, (hothers _ hsubject).1, (hothers _ hsubject).2,
    (hanswers _ (hspared .access)).1, (hanswers _ (hspared .refresh)).2⟩

end Service

end SessionAuth
