import SessionAuth.Proofs.Service.Request
import SessionAuth.Service.Run

/-!
# What the text of a failure makes of an operation

A store that cannot be reached or a library that fails says so in its own words. Two operations are
alike when they make the same calls and come to the same, but for such words, as long as they are
told the same, but for such words.

* `DomainError.wordless`, `ServiceError.wordless`, `Call.wordless`: errors and answers without the
  words of a failure.
* `Flow.Alike`, `Operation.Alike` and their rules: trees of calls that words make no difference to.
* `Plan.Alike`, `Flow.run_eq_of_alike`: runs in which the same calls fail.
* `Request.alike_operation`: every operation is alike to itself.
-/

namespace SessionAuth

variable {α β : Type}

/-! ## Errors without words -/

/-- The error, without the words of a failure. -/
def DomainError.wordless : DomainError → DomainError
  | .persistence _ => .persistence ""
  | e => e

/-- The error, without the words of a failure. -/
def ServiceError.wordless : ServiceError → ServiceError
  | .infrastructure _ => .infrastructure ""
  | .domain e => .domain e.wordless
  | e => e

/-- An answer, without the words of a failure. -/
def Call.wordless : (c : Call) → c.Answer → c.Answer
  | .findByUsername _, a | .findById _, a | .insertUser _, a | .updatePassword _ _ _, a
  | .softDelete _ _, a => a.mapError DomainError.wordless
  | .hashPassword _, a | .checkPassword _ _, a | .signToken _ _ _, a | .verifyToken _, a
  | .saveSession _ _, a | .getSession _, a | .deleteSession _, a =>
    a.mapError ServiceError.wordless
  | .readClock, a => a

theorem eq_or_errors_of_mapError_eq {ε δ : Type} {f : ε → δ} {r r' : Except ε α}
    (h : r.mapError f = r'.mapError f) :
    (∃ a, r = .ok a ∧ r' = .ok a) ∨ ∃ e e', r = .error e ∧ r' = .error e' ∧ f e = f e' := by
  cases r with
  | ok a =>
    cases r' with
    | ok b =>
      obtain rfl := Except.ok.inj h
      exact Or.inl ⟨a, rfl, rfl⟩
    | error e' => cases h
  | error e =>
    cases r' with
    | ok b => cases h
    | error e' => exact Or.inr ⟨e, e', rfl, rfl, Except.error.inj h⟩

/-- Two results that are the same but for the words of a failure. -/
def AlikeResults (r r' : Except ServiceError α) : Prop :=
  r.mapError ServiceError.wordless = r'.mapError ServiceError.wordless

theorem alikeResults_domain {r r' : Except DomainError α}
    (h : r.mapError DomainError.wordless = r'.mapError DomainError.wordless) :
    AlikeResults (r.mapError .domain) (r'.mapError .domain) := by
  obtain ⟨a, rfl, rfl⟩ | ⟨e, e', rfl, rfl, he⟩ := eq_or_errors_of_mapError_eq h
  · rfl
  · exact congrArg (fun e => Except.error (ServiceError.domain e)) he

/-- What is told behind a heading is words. -/
theorem wordless_failed (heading cause : String) :
    (ServiceError.failed heading cause).wordless = .infrastructure "" := rfl

theorem alikeResults_error_failed (heading cause cause' : String) :
    AlikeResults (.error (.failed heading cause) : Except ServiceError α)
      (.error (.failed heading cause')) := by
  have hsame := (wordless_failed heading cause).trans (wordless_failed heading cause').symm
  exact congrArg Except.error hsame

/-- Behind a heading nothing is left of an error but words. -/
theorem alikeResults_failed {heading : String} {r r' : Except ServiceError α}
    (h : AlikeResults r r') :
    AlikeResults (r.mapError fun e => .failed heading e.message)
      (r'.mapError fun e => .failed heading e.message) := by
  obtain ⟨a, rfl, rfl⟩ | ⟨e, e', rfl, rfl, -⟩ := eq_or_errors_of_mapError_eq h
  · rfl
  · exact alikeResults_error_failed heading e.message e'.message

/-! ## Trees of calls -/

/-- Two trees that make the same calls and come to related results, as long as they are answered the
same but for the words of a failure. -/
inductive Flow.Alike (rel : α → α → Prop) : Flow α → Flow α → Prop
  | done {a b : α} (related : rel a b) : Alike rel (.done a) (.done b)
  | call {c : Call} {next next' : c.Answer → Flow α}
      (rest : ∀ a b, c.wordless a = c.wordless b → Alike rel (next a) (next' b)) :
      Alike rel (.call c next) (.call c next')

theorem Flow.Alike.bind {rel : α → α → Prop} {rel' : β → β → Prop} {x x' : Flow α}
    {f g : α → Flow β} (h : x.Alike rel x') (hrest : ∀ a b, rel a b → (f a).Alike rel' (g b)) :
    (x >>= f).Alike rel' (x' >>= g) := by
  induction h with
  | done hrelated => exact hrest _ _ hrelated
  | call _ ih => exact .call ih

theorem Flow.Alike.map {rel : α → α → Prop} {rel' : β → β → Prop} {x x' : Flow α} {f : α → β}
    (h : x.Alike rel x') (hrest : ∀ a b, rel a b → rel' (f a) (f b)) :
    (f <$> x).Alike rel' (f <$> x') := by
  rw [map_eq_pure_bind, map_eq_pure_bind]
  exact h.bind fun a b hab => .done (hrest a b hab)

/-- A reply, with another answer in it. -/
def Reply.map (f : α → β) : Reply α → Reply β
  | .answer a => .answer (f a)
  | .silence => .silence

/-- By both plans the same becomes of every call, but for the words of a failure. -/
def Plan.Alike (plan plan' : Plan) : Prop :=
  ∀ n c, (plan n c).map (Reply.map c.wordless) = (plan' n c).map (Reply.map c.wordless)

theorem Plan.Alike.cases {plan plan' : Plan} (h : plan.Alike plan') (n : Nat) (c : Call) :
    (plan n c = .none ∧ plan' n c = .none) ∨
      (plan n c = some .silence ∧ plan' n c = some .silence) ∨
      ∃ a b, plan n c = some (.answer a) ∧ plan' n c = some (.answer b) ∧
        c.wordless a = c.wordless b := by
  have hsame := h n c
  cases hplan : plan n c with
  | none =>
    rw [hplan] at hsame
    exact Or.inl ⟨rfl, Option.map_eq_none_iff.mp hsame.symm⟩
  | some reply =>
    rw [hplan] at hsame
    obtain ⟨reply', hplan', hreply⟩ := Option.map_eq_some_iff.mp hsame.symm
    cases reply with
    | silence =>
      cases reply' with
      | silence => exact Or.inr (Or.inl ⟨rfl, hplan'⟩)
      | answer b => exact absurd hreply (by simp [Reply.map])
    | answer a =>
      cases reply' with
      | silence => exact absurd hreply (by simp [Reply.map])
      | answer b => exact Or.inr (Or.inr ⟨a, b, rfl, hplan', (Reply.answer.inj hreply).symm⟩)

/-- **Words make no difference to a run**: under plans that are alike, trees that are alike come to
the same, by the same calls, and leave the same system. -/
theorem Flow.run_eq_of_alike {plan plan' : Plan} (hplan : plan.Alike plan') {x x' : Flow α}
    (h : x.Alike Eq x') (n : Nat) (s : System) : x.run plan n s = x'.run plan' n s := by
  induction h generalizing n s with
  | done hrelated => rw [hrelated, run, run]
  | @call c next next' _ ih =>
    rw [run, run]
    obtain ⟨hplan, hplan'⟩ | ⟨hplan, hplan'⟩ | ⟨a, b, hplan, hplan', hab⟩ := hplan.cases n c
    · rw [hplan, hplan']
      cases s.serve c with
      | none => rfl
      | some p => exact congrArg (Run.after c) (ih p.1 p.1 rfl (n + 1) p.2)
    · rw [hplan, hplan']
    · rw [hplan, hplan']
      exact congrArg (Run.after c) (ih a b hab (n + 1) s)

/-! ## Operations -/

namespace Operation

/-- The operations come to the same but for the words of a failure, as long as they are told the
same but for the words of a failure. -/
structure Alike (op op' : Operation α) : Prop where
  flow : Flow.Alike AlikeResults (ExceptT.run op) (ExceptT.run op')

theorem alike_pure (a : α) : (pure a : Operation α).Alike (pure a) := ⟨.done rfl⟩

theorem alike_throw {e e' : ServiceError} (h : e.wordless = e'.wordless) :
    (throw e : Operation α).Alike (throw e') := ⟨.done (congrArg Except.error h)⟩

theorem alike_bind {op op' : Operation α} {f g : α → Operation β} (h : op.Alike op')
    (hrest : ∀ a, (f a).Alike (g a)) : (op >>= f).Alike (op' >>= g) := by
  refine ⟨h.flow.bind fun r r' hr => ?_⟩
  obtain ⟨a, rfl, rfl⟩ | ⟨e, e', rfl, rfl, he⟩ := eq_or_errors_of_mapError_eq hr
  · exact (hrest a).flow
  · exact (alike_throw he).flow

/-- What comes after a check has been reached only if the check has passed. -/
theorem alike_unless {c : Prop} [Decidable c] {e : ServiceError} {f g : Unit → Operation β}
    (hrest : (f ()).Alike (g ())) :
    (if c then (throw e : Operation Unit) >>= f else f ()).Alike
      (if c then (throw e : Operation Unit) >>= g else g ()) := by
  split
  · exact alike_bind (alike_throw rfl) fun _ => hrest
  · exact hrest

theorem alike_ask_bind {c : Call} {f g : c.Answer → Operation β}
    (hrest : ∀ a b, c.wordless a = c.wordless b → (f a).Alike (g b)) :
    (ask c >>= f).Alike (ask c >>= g) :=
  ⟨.call fun a b hab => (hrest a b hab).flow⟩

theorem alike_ofResult {r r' : Except ServiceError α} (h : AlikeResults r r') :
    (ofResult r).Alike (ofResult r') := ⟨.done h⟩

theorem alike_ofDomain {r r' : Except DomainError α}
    (h : r.mapError DomainError.wordless = r'.mapError DomainError.wordless) :
    (ofDomain r).Alike (ofDomain r') := alike_ofResult (alikeResults_domain h)

theorem alike_orFailed {heading : String} {r r' : Except ServiceError α} (h : AlikeResults r r') :
    (orFailed heading r).Alike (orFailed heading r') := alike_ofResult (alikeResults_failed h)

/-- The errors of a part that is attempted go to the rest. -/
theorem alike_attempt_bind {op op' : Operation α} {f g : Except ServiceError α → Operation β}
    (h : op.Alike op') (hrest : ∀ r r', AlikeResults r r' → (f r).Alike (g r')) :
    (attempt op >>= f).Alike (attempt op' >>= g) := by
  have hrun : ∀ (op : Operation α) (f : Except ServiceError α → Operation β),
      ExceptT.run (attempt op >>= f) = ExceptT.run op >>= fun r => ExceptT.run (f r) := by
    intro op f
    rw [ExceptT.run_bind]
    exact bind_assoc (ExceptT.run op) _ _
  refine ⟨?_⟩
  rw [hrun, hrun]
  exact h.flow.bind fun r r' hr => (hrest r r' hr).flow

end Operation

namespace Service

open Operation

/-! ## Sessions -/

theorem alike_authenticate (username password : String) :
    (authenticate username password).Alike (authenticate username password) := by
  rw [authenticate]
  split
  · exact alike_throw rfl
  refine alike_ask_bind fun found found' hfound => ?_
  obtain ⟨user?, rfl, rfl⟩ | ⟨e, e', rfl, rfl, -⟩ := eq_or_errors_of_mapError_eq hfound
  · cases user? with
    | none => exact alike_throw rfl
    | some user =>
      refine alike_ask_bind fun checked checked' hchecked => ?_
      obtain ⟨_, rfl, rfl⟩ | ⟨e, e', rfl, rfl, -⟩ := eq_or_errors_of_mapError_eq hchecked
      · exact alike_pure user
      · exact alike_throw rfl
  · exact alike_throw rfl

theorem alike_storeToken (session : Session) :
    (storeToken session).Alike (storeToken session) := by
  refine alike_ask_bind fun verified verified' hverified => ?_
  refine alike_bind (alike_orFailed hverified) fun claims => ?_
  refine alike_ask_bind fun now now' hnow => ?_
  obtain rfl : now = now' := hnow
  split
  · exact alike_pure ()
  · exact alike_ask_bind fun saved saved' hsaved => alike_orFailed hsaved

theorem alike_issueSession (user : User) : (issueSession user).Alike (issueSession user) := by
  refine alike_ask_bind fun signed signed' hsigned => ?_
  refine alike_bind (alike_ofResult hsigned) fun access => ?_
  refine alike_bind (alike_storeToken _) fun _ => ?_
  refine alike_ask_bind fun signed signed' hsigned => ?_
  refine alike_bind (alike_ofResult hsigned) fun refresh => ?_
  exact alike_bind (alike_storeToken _) fun _ => alike_pure _

theorem alike_revoke (user : UserId) (kind : TokenKind) :
    (revoke user kind).Alike (revoke user kind) :=
  alike_ask_bind fun _ _ hdeleted => alike_orFailed hdeleted

theorem alike_revokeAll (user : UserId) : (revokeAll user).Alike (revokeAll user) :=
  alike_bind (alike_revoke user .access) fun _ => alike_revoke user .refresh

theorem alike_login (username password : String) :
    (login username password).Alike (login username password) :=
  alike_bind (alike_authenticate username password) fun user =>
    alike_bind (alike_issueSession user) fun _ => alike_pure _

theorem alike_validate (raw : String) : (validate raw).Alike (validate raw) := by
  refine alike_ask_bind fun verified verified' hverified => ?_
  obtain ⟨claims, rfl, rfl⟩ | ⟨e, e', rfl, rfl, -⟩ := eq_or_errors_of_mapError_eq hverified
  · refine alike_bind (alike_ofResult rfl) fun user => ?_
    refine alike_ask_bind fun read read' hread => ?_
    refine alike_bind (alike_orFailed hread) fun stored => ?_
    split
    · exact alike_pure _
    · exact alike_throw rfl
  · exact alike_throw rfl

theorem alike_checkRefresh (raw : String) : (checkRefresh raw).Alike (checkRefresh raw) := by
  refine alike_ask_bind fun verified verified' hverified => ?_
  refine alike_bind (alike_ofResult hverified) fun claims => ?_
  refine alike_bind (alike_ofResult rfl) fun user => ?_
  refine alike_ask_bind fun read read' hread => ?_
  refine alike_bind (alike_ofResult hread) fun stored => ?_
  split
  · exact alike_pure _
  · exact alike_throw rfl

theorem alike_refreshSubject (id : UserId) : (refreshSubject id).Alike (refreshSubject id) := by
  refine alike_ask_bind fun found found' hfound => ?_
  refine alike_bind (alike_orFailed (alikeResults_domain hfound)) fun user? => ?_
  cases user? with
  | none => exact alike_throw rfl
  | some user => exact alike_pure user

theorem alike_refresh (raw : String) : (refresh raw).Alike (refresh raw) := by
  refine alike_attempt_bind (alike_checkRefresh raw) fun checked checked' hchecked => ?_
  obtain ⟨id, rfl, rfl⟩ | ⟨e, e', rfl, rfl, -⟩ := eq_or_errors_of_mapError_eq hchecked
  · exact alike_bind (alike_refreshSubject id) alike_issueSession
  · exact alike_throw rfl

/-! ## Accounts -/

theorem alike_ownAccount (id : UserId) : (ownAccount id).Alike (ownAccount id) := by
  refine alike_ask_bind fun found found' hfound => ?_
  refine alike_bind (alike_ofDomain hfound) fun user? => ?_
  cases user? with
  | none => exact alike_throw rfl
  | some user => exact alike_pure user

theorem alike_newHash (password : String) : (newHash password).Alike (newHash password) := by
  refine alike_ask_bind fun hashed hashed' hhashed => ?_
  exact alike_bind (alike_ofResult hhashed) fun text => alike_ofDomain rfl

theorem alike_register (r : Registration) : (register r).Alike (register r) := by
  rw [register]
  refine alike_bind (alike_ofDomain rfl) fun username => ?_
  refine alike_bind (alike_ofDomain rfl) fun email => ?_
  refine alike_unless ?_
  refine alike_bind (alike_ofResult rfl) fun _ => ?_
  refine alike_ask_bind fun found found' hfound => ?_
  refine alike_bind (alike_ofDomain hfound) fun user? => ?_
  refine alike_unless ?_
  refine alike_bind (alike_newHash r.password) fun hash => ?_
  refine alike_ask_bind fun now now' hnow => ?_
  obtain rfl : now = now' := hnow
  refine alike_ask_bind fun inserted inserted' hinserted => ?_
  exact alike_bind (alike_ofDomain hinserted) fun user => alike_pure _

theorem isInfrastructure_wordless (e : ServiceError) :
    e.wordless.isInfrastructure = e.isInfrastructure := by
  cases e with
  | domain e => cases e <;> rfl
  | _ => rfl

/-- A failed check is told apart by its kind, not by its words. -/
theorem wordless_checkFailure {e e' : ServiceError} (h : e.wordless = e'.wordless) :
    (checkFailure e).wordless = (checkFailure e').wordless := by
  have hkind : e.isInfrastructure = e'.isInfrastructure := by
    rw [← isInfrastructure_wordless e, h, isInfrastructure_wordless e']
  rw [checkFailure, checkFailure, hkind]
  split
  · exact h
  · rfl

theorem alike_changePassword (caller : Caller) (current new : String) :
    (changePassword caller current new).Alike (changePassword caller current new) := by
  refine alike_bind (alike_ownAccount caller.id) fun user => ?_
  refine alike_ask_bind fun checked checked' hchecked => ?_
  have hfailed : AlikeResults (checked.mapError checkFailure) (checked'.mapError checkFailure) := by
    obtain ⟨_, rfl, rfl⟩ | ⟨e, e', rfl, rfl, he⟩ := eq_or_errors_of_mapError_eq hchecked
    · rfl
    · exact congrArg Except.error (wordless_checkFailure he)
  refine alike_bind (alike_ofResult hfailed) fun _ => ?_
  refine alike_bind (alike_ofResult rfl) fun _ => ?_
  refine alike_bind (alike_newHash new) fun hash => ?_
  refine alike_ask_bind fun now now' hnow => ?_
  obtain rfl : now = now' := hnow
  refine alike_ask_bind fun updated updated' hupdated => ?_
  exact alike_bind (alike_ofDomain hupdated) alike_issueSession

theorem alike_softDelete (caller : Caller) : (softDelete caller).Alike (softDelete caller) := by
  refine alike_bind (alike_revokeAll caller.id) fun _ => ?_
  refine alike_ask_bind fun now now' hnow => ?_
  obtain rfl : now = now' := hnow
  exact alike_ask_bind fun deleted deleted' hdeleted => alike_ofDomain hdeleted

theorem alike_profile (caller : Caller) : (profile caller).Alike (profile caller) := by
  refine alike_bind (alike_ownAccount caller.id) fun user => ?_
  split
  · exact alike_pure _
  · refine alike_ask_bind fun now now' hnow => ?_
    obtain rfl : now = now' := hnow
    exact alike_pure _

/-- **Words make no difference to any operation.** -/
theorem Request.alike_operation (r : Request) : r.operation.Alike r.operation := by
  cases r with
  | register registration => exact alike_register registration
  | login username password => exact alike_login username password
  | validate raw => exact alike_validate raw
  | refresh raw => exact alike_refresh raw
  | logout user => exact alike_revokeAll user
  | changePassword caller current new => exact alike_changePassword caller current new
  | softDelete caller => exact alike_softDelete caller
  | profile caller => exact alike_profile caller

end Service

end SessionAuth
