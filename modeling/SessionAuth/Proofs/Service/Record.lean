import SessionAuth.Proofs.Service.Contract

/-!
# How tokens come on record

A token is put on record right after it has been signed, found to be good and weighed against the
clock, and for just the time that is left. A request that succeeds has done so with both of its
tokens, but for those that the clock left no time for.

* `Request.Measured`: the calls that put tokens on record, or that change accounts for a new
  password.
* `Request.Stores`: what a request that issues tokens has done with both of them.
* `Request.along_measured`: every request keeps to this contract too.
-/

namespace SessionAuth

namespace Service

namespace Request

open Operation

/-- The calls that a request may make, as far as sessions are put on record and the user table is
changed: a session is kept for the time that is left, and a change of password changes no account
but that of its caller, and that only in one way. -/
def Measured (r : Request) (past : List Exchange) : Call → Prop
  | .saveSession session ttl => ∃ n, Weighed session (some n) past ∧ ttl = .ofSeconds n
  | .insertUser _ | .softDelete _ _ => ∀ caller current new, r ≠ changePassword caller current new
  | .updatePassword id _ _ =>
    ∀ caller current new, r = changePassword caller current new → id = caller.id
  | _ => True

/-- What a request that has succeeded has done with the tokens that it has given out. -/
def Stores : (r : Request) → List Exchange → r.Result → Prop
  | login _ _, past, result => ∃ id : UserId,
      result.user.id = id.val ∧ ∀ kind, Stored ⟨id, kind, result.tokens.token kind⟩ past
  | refresh raw, past, pair =>
      ∃ id, HasPresented raw past id ∧ ∀ kind, Stored ⟨id, kind, pair.token kind⟩ past
  | changePassword caller _ _, past, pair =>
      ∀ kind, Stored ⟨caller.id, kind, pair.token kind⟩ past
  | _, _, _ => True

theorem permits_measured (r : Request) : Permits r r.Measured where
  free := fun past c h => by
    cases c with
    | findByUsername _ | findById _ | hashPassword _ | checkPassword _ _ | verifyToken _
    | readClock => trivial
    | _ => exact h.elim
  read := fun _ _ _ => trivial
  update := fun past caller current new hash at' hr caller' current' new' hr' => by
    obtain ⟨rfl, -, -⟩ := changePassword.inj (hr.symm.trans hr')
    rfl
  sign := fun _ _ _ _ _ _ => trivial
  save := fun _ _ n _ hweighed _ => ⟨n, hweighed, rfl⟩

/-- A request that neither issues tokens nor changes a password has nothing to keep to. -/
theorem measured_of_safe {r : Request} (hentitled : ∀ past id, ¬ r.Entitled past id)
    (hchange : ∀ caller current new, r ≠ changePassword caller current new)
    (past : List Exchange) (c : Call) (h : r.Safe past c) : r.Measured past c := by
  cases c with
  | saveSession session ttl => exact absurd h.1 (hentitled past session.user)
  | insertUser user => exact hchange
  | softDelete id at' => exact hchange
  | updatePassword id hash at' =>
    exact fun caller current new hr => absurd hr (hchange caller current new)
  | _ => trivial

theorem along_measured_of_quiet {r : Request} (hentitled : ∀ past id, ¬ r.Entitled past id)
    (hchange : ∀ caller current new, r ≠ changePassword caller current new)
    (hstores : ∀ past result, r.Stores past result) :
    r.operation.Along r.Measured r.Stores [] := by
  have hsafe := (along_operation r).flow.mono_safe (measured_of_safe hentitled hchange)
  have halong : r.operation.Along r.Measured r.Post [] := ⟨hsafe⟩
  exact halong.mono fun past result _ => hstores past result

/-- **Every request keeps to this contract too.** -/
theorem along_measured (r : Request) : r.operation.Along r.Measured r.Stores [] := by
  cases r with
  | login username password =>
    refine (traced_login (permits_measured _)).along.mono ?_
    rintro past result ⟨id, hid, -, hstored⟩
    exact ⟨id, hid, hstored⟩
  | refresh raw =>
    refine (traced_refresh (permits_measured _)).along.mono ?_
    rintro past pair ⟨id, hpresented, -, hstored⟩
    exact ⟨id, hpresented, hstored⟩
  | changePassword caller current new =>
    exact (traced_changePassword (permits_measured _)).along.mono fun _ _ => And.right
  | _ =>
    refine along_measured_of_quiet (fun _ _ => id) ?_ fun _ _ => trivial
    intro caller current new h
    exact absurd h (by simp)

end Request

end Service

end SessionAuth
