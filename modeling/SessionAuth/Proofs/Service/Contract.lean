import SessionAuth.Proofs.Service.Trace

/-!
# What each request may do

Every request keeps to a contract about its own calls: tokens are signed for a user only after
that user's password or refresh token has been checked, and nothing is put on record but what the
same request has signed, each kind of token at most once.

* `Request.Safe`: the calls that a request may make, by what has been answered to it before.
* `Request.Post`: what has been answered to a request that has succeeded.
* `Request.along_operation`: every request keeps to its contract.
-/

namespace SessionAuth

namespace Service

namespace Request

open Operation

/-! ## The contract -/

/-- The request is there to end the sessions of a user. -/
def Revokes : Request → UserId → Prop
  | logout user, id => user = id
  | softDelete caller, id => caller.id = id
  | _, _ => False

/-- The calls that a request may make after what has been answered to it. -/
def Safe (r : Request) (past : List Exchange) : Call → Prop
  | .signToken user _ extra => TokenProvider.Supplement extra ∧ r.Entitled past user
  | .saveSession session _ =>
    r.Entitled past session.user ∧
    (∃ extra, ⟨.signToken session.user session.kind extra, .ok session.token⟩ ∈ past) ∧
    Unsaved session.kind past
  | .getSession _ => ∀ x ∈ past, x.call.signs = false
  | .deleteSession slot => r.Revokes slot.user
  | .softDelete id _ => r.Revokes id
  | _ => True

/-- Both slots of a user have been cleared. -/
def HasCleared (past : List Exchange) (user : UserId) : Prop :=
  ∀ kind, ⟨.deleteSession ⟨user, kind⟩, .ok ()⟩ ∈ past

/-- What has been answered to a request that succeeds. -/
def Post : (r : Request) → List Exchange → r.Result → Prop
  | validate raw, past, caller =>
    caller.claims.subject = .ok caller.id ∧ ∃ session, session.token = bareToken raw ∧
      past = [⟨.verifyToken (bareToken raw), .ok caller.claims⟩,
        ⟨.getSession ⟨caller.id, .access⟩, .ok (some session)⟩]
  | refresh raw, past, pair => ∃ id, HasPresented raw past id ∧ OnlySaves past id pair
  | login _ _, past, result => ∃ id : UserId,
      result.user.id = id.val ∧ OnlySaves past id result.tokens
  | changePassword caller _ _, past, pair => OnlySaves past caller.id pair
  | logout user, past, _ => HasCleared past user
  | softDelete caller, past, _ =>
    HasCleared past caller.id ∧ ∃ at', ⟨.softDelete caller.id at', .ok ()⟩ ∈ past
  | _, _, _ => True

/-! ## The requests -/

theorem safe_of_isFree (r : Request) (past : List Exchange) (c : Call) (h : c.IsFree) :
    r.Safe past c := by
  cases c with
  | findByUsername _ | findById _ | hashPassword _ | checkPassword _ _ | verifyToken _
  | readClock => trivial
  | _ => exact h.elim

/-- The contract asks for nothing that issuing does not keep to. -/
theorem permits_safe (r : Request) : Permits r r.Safe where
  free := r.safe_of_isFree
  read := fun _ _ => id
  update := fun _ _ _ _ _ _ _ => trivial
  sign := fun _ _ _ _ hextra hentitled => ⟨hextra, hentitled⟩
  save := fun _ _ _ hentitled hweighed hunsaved => ⟨hentitled, hweighed.signed, hunsaved⟩

theorem along_login (username password : String) :
    (Service.login username password).Along (login username password).Safe
      (login username password).Post [] :=
  (traced_login (permits_safe _)).along.mono fun _ _ ⟨id, hid, hsaves, _⟩ => ⟨id, hid, hsaves⟩

theorem along_validate (raw : String) :
    (Service.validate raw).Along (validate raw).Safe (validate raw).Post [] := by
  refine along_ask_bind trivial fun verified _ => ?_
  rcases verified with _ | claims
  · exact along_throw _
  refine along_ofResult_bind fun user hsubject => ?_
  refine along_ask_bind (by simp [Safe, Call.signs]) fun read _ => ?_
  refine along_orFailed_bind ?_
  rintro stored rfl
  split
  · rename_i hfor
    obtain ⟨session, rfl, htoken, -⟩ := Session.any_isFor_iff.mp hfor
    exact along_pure ⟨mapError_eq_ok_iff.mp hsubject, session, htoken, rfl⟩
  · exact along_throw _

theorem along_refresh (raw : String) :
    (Service.refresh raw).Along (refresh raw).Safe (refresh raw).Post [] :=
  (traced_refresh (permits_safe _)).along.mono
    fun _ _ ⟨id, hpresented, hsaves, _⟩ => ⟨id, hpresented, hsaves⟩

theorem along_revoke {r : Request} {past : List Exchange} {user : UserId} {kind : TokenKind}
    (h : r.Revokes user) :
    (revoke user kind).Along r.Safe
      (fun past' _ => past' = past ++ [⟨.deleteSession ⟨user, kind⟩, .ok ()⟩]) past := by
  refine along_ask_bind h fun deleted _ => along_orFailed ?_
  rintro _ rfl
  rfl

theorem along_revokeAll {r : Request} {user : UserId} (h : r.Revokes user) :
    (revokeAll user).Along r.Safe (fun past _ => HasCleared past user) [] := by
  refine along_bind (along_revoke h) ?_
  rintro _ _ rfl
  refine (along_revoke h).mono ?_
  rintro _ _ rfl kind
  cases kind <;> simp

theorem along_logout (user : UserId) :
    (Service.logout user).Along (logout user).Safe (logout user).Post [] :=
  along_revokeAll rfl

theorem along_softDelete (caller : Caller) :
    (Service.softDelete caller).Along (softDelete caller).Safe (softDelete caller).Post [] := by
  refine along_bind (along_revokeAll rfl) fun past _ hcleared => ?_
  refine along_ask_bind trivial fun now _ => ?_
  refine along_ask_bind rfl fun deleted _ => along_ofDomain ?_
  rintro _ rfl
  refine ⟨fun kind => ?_, now, ?_⟩
  · exact List.mem_append_left _ (List.mem_append_left _ (hcleared kind))
  · exact List.mem_append_right _ (List.mem_singleton_self _)

theorem along_changePassword (caller : Caller) (current new : String) :
    (Service.changePassword caller current new).Along (changePassword caller current new).Safe
      (changePassword caller current new).Post [] :=
  (traced_changePassword (permits_safe _)).along.mono fun _ _ => And.left

/-- A registration adds one account at most, under the username that its text spells. -/
theorem along_register_of {safe : List Exchange → Call → Prop} {registration : Registration}
    (hfree : ∀ past c, c.IsFree → safe past c)
    (hinsert : ∀ past n, Username.ofText registration.username = .ok n.username →
      safe past (.insertUser n)) :
    (Service.register registration).Along safe (fun _ _ => True) [] := by
  refine along_ofDomain_bind fun username husername => ?_
  refine along_ofDomain_bind fun email _ => ?_
  split
  · exact along_throw _
  refine along_ofResult_bind fun _ _ => along_ask_bind (hfree _ _ trivial) fun found _ => ?_
  refine along_ofDomain_bind fun taken _ => ?_
  split
  · exact along_throw _
  have hfound : NoneSaved ([] ++ [⟨.findByUsername username, found⟩]) := noneSaved_nil.snoc rfl
  have hhash := traced_newHash hfree hfound
  refine along_bind (hhash registration.password).along fun past hash _ => ?_
  refine along_ask_bind (hfree _ _ trivial) fun now _ => ?_
  refine along_ask_bind (hinsert _ _ husername) fun inserted _ => ?_
  exact along_ofDomain_bind fun user _ => along_pure trivial

theorem along_register (registration : Registration) :
    (Service.register registration).Along (register registration).Safe
      (register registration).Post [] :=
  along_register_of (safe_of_isFree _) fun _ _ _ => trivial

theorem along_profile (caller : Caller) :
    (Service.profile caller).Along (profile caller).Safe (profile caller).Post [] := by
  have haccount := traced_ownAccount (safe_of_isFree (profile caller)) noneSaved_nil caller.id
  refine along_bind haccount.along fun past user _ => ?_
  split
  · exact along_pure trivial
  · exact along_ask_bind trivial fun now _ => along_pure trivial

/-- **Every request keeps to its contract.** -/
theorem along_operation (r : Request) : r.operation.Along r.Safe r.Post [] := by
  cases r with
  | register registration => exact along_register registration
  | login username password => exact along_login username password
  | validate raw => exact along_validate raw
  | refresh raw => exact along_refresh raw
  | logout user => exact along_logout user
  | changePassword caller current new => exact along_changePassword caller current new
  | softDelete caller => exact along_softDelete caller
  | profile caller => exact along_profile caller

end Request

end Service

end SessionAuth
