import SessionAuth.Service.Call

/-!
# What holds along an operation

The calls of an operation are looked at one after another, each with all that has been answered
before it. Nothing is said about who answers, so what is shown here holds whatever else goes on
between two calls.

* `Exchange`: a call and its answer; `Exchange.Fair` is what every collaborator keeps to, and
  `Exchange.Failed` says that it reports a failure.
* `Adds`: what has been exchanged grows by exchanges of some sort only.
* `Flow.Along`: every call is safe where it is made, and the result is as stated.
* `Operation.Traced` and its rules: the same for operations, about results and errors apart.
* `Operation.Along` and its rules: the same about results that are no errors.
-/

namespace SessionAuth

theorem mapError_ok {ε δ α : Type} (f : ε → δ) (a : α) : (Except.ok a).mapError f = .ok a := rfl

/-- A result is one whatever is done about errors. -/
theorem mapError_eq_ok_iff {ε δ α : Type} {r : Except ε α} {f : ε → δ} {a : α} :
    r.mapError f = .ok a ↔ r = .ok a := by
  cases r with
  | ok b =>
    change Except.ok b = .ok a ↔ _
    simp
  | error e =>
    change Except.error (f e) = .ok a ↔ _
    simp

/-- A call and its answer. -/
structure Exchange where
  call : Call
  answer : call.Answer

namespace Exchange

/-- A collaborator that finds what it is asked for answers with just that. -/
def Fair : Exchange → Prop
  | ⟨.findById id, .ok (some user)⟩ => user.id = id
  | ⟨.updatePassword id _ _, .ok user⟩ => user.id = id
  | ⟨.getSession slot, .ok (some session)⟩ => session.slot = slot
  | _ => True

/-- Whether an answer reports a failure. The clock never does. -/
def Failed : Exchange → Prop
  | ⟨.findByUsername _, a⟩ | ⟨.findById _, a⟩ | ⟨.insertUser _, a⟩ | ⟨.updatePassword _ _ _, a⟩
  | ⟨.softDelete _ _, a⟩ | ⟨.hashPassword _, a⟩ | ⟨.checkPassword _ _, a⟩ | ⟨.signToken _ _ _, a⟩
  | ⟨.verifyToken _, a⟩ | ⟨.saveSession _ _, a⟩ | ⟨.getSession _, a⟩ | ⟨.deleteSession _, a⟩ =>
    ∃ e, a = .error e
  | ⟨.readClock, _⟩ => False

theorem fair_of_failed {x : Exchange} (h : x.Failed) : x.Fair := by
  obtain ⟨c, a⟩ := x
  cases c with
  | readClock => exact h.elim
  | _ =>
    obtain ⟨e, rfl⟩ := h
    trivial

end Exchange

/-- What is added to the exchanges so far has a property. -/
structure Adds (p : Exchange → Prop) (past past' : List Exchange) : Prop where
  kept : past ⊆ past'
  added : ∀ x ∈ past', x ∈ past ∨ p x

namespace Adds

variable {p q : Exchange → Prop} {past past' past'' : List Exchange}

theorem refl : Adds p past past := ⟨fun _ h => h, fun _ h => Or.inl h⟩

theorem snoc (h : Adds p past past') {x : Exchange} (hx : p x) : Adds p past (past' ++ [x]) := by
  refine ⟨fun y hy => List.mem_append_left _ (h.kept hy), fun y hy => ?_⟩
  rcases List.mem_append.mp hy with hy | hy
  · exact h.added y hy
  · obtain rfl := List.mem_singleton.mp hy
    exact Or.inr hx

theorem trans (h : Adds p past past') (h' : Adds p past' past'') : Adds p past past'' := by
  refine ⟨fun y hy => h'.kept (h.kept hy), fun y hy => ?_⟩
  rcases h'.added y hy with hy | hy
  · exact h.added y hy
  · exact Or.inr hy

theorem mono (h : Adds p past past') (hpq : ∀ x, p x → q x) : Adds q past past' :=
  ⟨h.kept, fun x hx => (h.added x hx).imp id (hpq x)⟩

end Adds

namespace Flow

variable {α β : Type} {safe : List Exchange → Call → Prop}

/-- After what has been exchanged so far, every call is safe where it is made, and the result is as
stated. -/
def Along (safe : List Exchange → Call → Prop) (post : List Exchange → α → Prop) :
    List Exchange → Flow α → Prop
  | past, .done a => post past a
  | past, .call c next =>
    safe past c ∧ ∀ a, Exchange.Fair ⟨c, a⟩ → Along safe post (past ++ [⟨c, a⟩]) (next a)

theorem Along.mono {post post' : List Exchange → α → Prop} {past : List Exchange} {x : Flow α}
    (h : Along safe post past x) (hpost : ∀ past a, post past a → post' past a) :
    Along safe post' past x := by
  induction x generalizing past with
  | done a => exact hpost past a h
  | call c next ih => exact ⟨h.1, fun a ha => ih a (h.2 a ha)⟩

/-- What is safe by one standard may be so by another one. -/
theorem Along.mono_safe {safe' : List Exchange → Call → Prop} {post : List Exchange → α → Prop}
    {past : List Exchange} {x : Flow α} (h : Along safe post past x)
    (hsafe : ∀ past c, safe past c → safe' past c) : Along safe' post past x := by
  induction x generalizing past with
  | done a => exact h
  | call c next ih => exact ⟨hsafe past c h.1, fun a ha => ih a (h.2 a ha)⟩

theorem Along.bind {mid : List Exchange → α → Prop} {post : List Exchange → β → Prop}
    {past : List Exchange} {x : Flow α} {f : α → Flow β} (h : Along safe mid past x)
    (hrest : ∀ past a, mid past a → Along safe post past (f a)) :
    Along safe post past (x >>= f) := by
  induction x generalizing past with
  | done a => exact hrest past a h
  | call c next ih => exact ⟨h.1, fun a ha => ih a (h.2 a ha)⟩

end Flow

namespace Operation

variable {α β : Type} {safe : List Exchange → Call → Prop} {past : List Exchange}

/-! ## Results and errors -/

/-- Every call is safe where it is made, a result that is no error is as stated, and so is what has
been exchanged by the time of an error. -/
structure Traced (safe : List Exchange → Call → Prop) (post : List Exchange → α → Prop)
    (fail : List Exchange → Prop) (past : List Exchange) (op : Operation α) : Prop where
  flow : Flow.Along safe
    (fun past r => (∀ a, r = .ok a → post past a) ∧ ∀ e, r = .error e → fail past) past
    (ExceptT.run op)

section Traced

variable {fail : List Exchange → Prop}

theorem Traced.mono {post post' : List Exchange → α → Prop} {fail' : List Exchange → Prop}
    {op : Operation α} (h : op.Traced safe post fail past)
    (hpost : ∀ past a, post past a → post' past a) (hfail : ∀ past, fail past → fail' past) :
    op.Traced safe post' fail' past :=
  ⟨h.flow.mono fun past _ hr =>
    ⟨fun a ha => hpost past a (hr.1 a ha), fun e he => hfail past (hr.2 e he)⟩⟩

theorem traced_pure {post : List Exchange → α → Prop} {a : α} (h : post past a) :
    (pure a : Operation α).Traced safe post fail past := by
  refine ⟨fun b hb => ?_, fun e he => absurd he (by simp)⟩
  obtain rfl := Except.ok.inj hb
  exact h

theorem traced_throw {post : List Exchange → α → Prop} (e : ServiceError) (h : fail past) :
    (throw e : Operation α).Traced safe post fail past :=
  ⟨fun b hb => absurd hb (by simp), fun _ _ => h⟩

theorem traced_ofResult {post : List Exchange → α → Prop} {r : Except ServiceError α}
    (hfail : fail past) (h : ∀ a, r = .ok a → post past a) :
    (ofResult r).Traced safe post fail past := by
  cases r with
  | ok a => exact traced_pure (h a rfl)
  | error e => exact traced_throw e hfail

theorem traced_bind {mid : List Exchange → α → Prop} {post : List Exchange → β → Prop}
    {op : Operation α} {f : α → Operation β} (h : op.Traced safe mid fail past)
    (hrest : ∀ past a, mid past a → (f a).Traced safe post fail past) :
    (op >>= f).Traced safe post fail past := by
  refine ⟨Flow.Along.bind h.flow fun past r hr => ?_⟩
  cases r with
  | ok a => exact (hrest past a (hr.1 a rfl)).flow
  | error e => exact (traced_throw e (hr.2 e rfl)).flow

theorem traced_ask_bind {post : List Exchange → β → Prop} {c : Call} {f : c.Answer → Operation β}
    (hsafe : safe past c)
    (hrest : ∀ a, Exchange.Fair ⟨c, a⟩ → (f a).Traced safe post fail (past ++ [⟨c, a⟩])) :
    (ask c >>= f).Traced safe post fail past :=
  ⟨hsafe, fun a ha => (hrest a ha).flow⟩

theorem traced_ofResult_bind {post : List Exchange → β → Prop} {r : Except ServiceError α}
    {f : α → Operation β} (hfail : fail past)
    (h : ∀ a, r = .ok a → (f a).Traced safe post fail past) :
    (ofResult r >>= f).Traced safe post fail past := by
  cases r with
  | ok a => exact ⟨(h a rfl).flow⟩
  | error e => exact ⟨(traced_throw e hfail).flow⟩

theorem traced_ofDomain_bind {post : List Exchange → β → Prop} {r : Except DomainError α}
    {f : α → Operation β} (hfail : fail past)
    (h : ∀ a, r = .ok a → (f a).Traced safe post fail past) :
    (ofDomain r >>= f).Traced safe post fail past :=
  traced_ofResult_bind hfail fun a ha => h a (mapError_eq_ok_iff.mp ha)

theorem traced_orFailed_bind {post : List Exchange → β → Prop} {heading : String}
    {r : Except ServiceError α} {f : α → Operation β} (hfail : fail past)
    (h : ∀ a, r = .ok a → (f a).Traced safe post fail past) :
    (orFailed heading r >>= f).Traced safe post fail past :=
  traced_ofResult_bind hfail fun a ha => h a (mapError_eq_ok_iff.mp ha)

/-- The errors of a part that is attempted go to the rest. -/
theorem traced_attempt_bind {mid : List Exchange → α → Prop} {midFail : List Exchange → Prop}
    {post : List Exchange → β → Prop} {op : Operation α} {f : Except ServiceError α → Operation β}
    (h : op.Traced safe mid midFail past)
    (hok : ∀ past a, mid past a → (f (.ok a)).Traced safe post fail past)
    (herror : ∀ past e, midFail past → (f (.error e)).Traced safe post fail past) :
    (attempt op >>= f).Traced safe post fail past := by
  have hrun : ExceptT.run (attempt op >>= f) = ExceptT.run op >>= fun r => ExceptT.run (f r) := by
    rw [ExceptT.run_bind]
    exact bind_assoc (ExceptT.run op) _ _
  refine ⟨hrun ▸ Flow.Along.bind h.flow fun past r hr => ?_⟩
  cases r with
  | ok a => exact (hok past a (hr.1 a rfl)).flow
  | error e => exact (herror past e (hr.2 e rfl)).flow

end Traced

/-! ## Results alone -/

/-- Every call is safe where it is made, and a result that is no error is as stated. -/
structure Along (safe : List Exchange → Call → Prop) (post : List Exchange → α → Prop)
    (past : List Exchange) (op : Operation α) : Prop where
  flow : Flow.Along safe (fun past r => ∀ a, r = .ok a → post past a) past (ExceptT.run op)

theorem Traced.along {post : List Exchange → α → Prop} {fail : List Exchange → Prop}
    {op : Operation α} (h : op.Traced safe post fail past) : op.Along safe post past :=
  ⟨h.flow.mono fun _ _ hr => hr.1⟩

/-- About errors nothing need be said. -/
theorem along_iff_traced {post : List Exchange → α → Prop} {op : Operation α} :
    op.Along safe post past ↔ op.Traced safe post (fun _ => True) past :=
  ⟨fun h => ⟨h.flow.mono fun _ _ hr => ⟨hr, fun _ _ => trivial⟩⟩, Traced.along⟩

theorem Along.traced {post : List Exchange → α → Prop} {op : Operation α}
    (h : op.Along safe post past) : op.Traced safe post (fun _ => True) past :=
  along_iff_traced.mp h

theorem Along.mono {post post' : List Exchange → α → Prop} {op : Operation α}
    (h : op.Along safe post past) (hpost : ∀ past a, post past a → post' past a) :
    op.Along safe post' past :=
  (h.traced.mono hpost fun _ => id).along

theorem along_pure {post : List Exchange → α → Prop} {a : α} (h : post past a) :
    (pure a : Operation α).Along safe post past :=
  along_iff_traced.mpr (traced_pure h)

theorem along_throw {post : List Exchange → α → Prop} (e : ServiceError) :
    (throw e : Operation α).Along safe post past :=
  along_iff_traced.mpr (traced_throw e trivial)

theorem along_orFailed {post : List Exchange → α → Prop} {heading : String}
    {r : Except ServiceError α} (h : ∀ a, r = .ok a → post past a) :
    (orFailed heading r).Along safe post past :=
  along_iff_traced.mpr (traced_ofResult trivial fun a ha => h a (mapError_eq_ok_iff.mp ha))

theorem along_ofDomain {post : List Exchange → α → Prop} {r : Except DomainError α}
    (h : ∀ a, r = .ok a → post past a) : (ofDomain r).Along safe post past :=
  along_iff_traced.mpr (traced_ofResult trivial fun a ha => h a (mapError_eq_ok_iff.mp ha))

theorem along_bind {mid : List Exchange → α → Prop} {post : List Exchange → β → Prop}
    {op : Operation α} {f : α → Operation β} (h : op.Along safe mid past)
    (hrest : ∀ past a, mid past a → (f a).Along safe post past) :
    (op >>= f).Along safe post past :=
  (traced_bind h.traced fun past a ha => (hrest past a ha).traced).along

theorem along_ask_bind {post : List Exchange → β → Prop} {c : Call} {f : c.Answer → Operation β}
    (hsafe : safe past c)
    (hrest : ∀ a, Exchange.Fair ⟨c, a⟩ → (f a).Along safe post (past ++ [⟨c, a⟩])) :
    (ask c >>= f).Along safe post past :=
  (traced_ask_bind hsafe fun a ha => (hrest a ha).traced).along

theorem along_ofResult_bind {post : List Exchange → β → Prop} {r : Except ServiceError α}
    {f : α → Operation β} (h : ∀ a, r = .ok a → (f a).Along safe post past) :
    (ofResult r >>= f).Along safe post past :=
  (traced_ofResult_bind trivial fun a ha => (h a ha).traced).along

theorem along_ofDomain_bind {post : List Exchange → β → Prop} {r : Except DomainError α}
    {f : α → Operation β} (h : ∀ a, r = .ok a → (f a).Along safe post past) :
    (ofDomain r >>= f).Along safe post past :=
  along_ofResult_bind fun a ha => h a (mapError_eq_ok_iff.mp ha)

theorem along_orFailed_bind {post : List Exchange → β → Prop} {heading : String}
    {r : Except ServiceError α} {f : α → Operation β}
    (h : ∀ a, r = .ok a → (f a).Along safe post past) :
    (orFailed heading r >>= f).Along safe post past :=
  along_ofResult_bind fun a ha => h a (mapError_eq_ok_iff.mp ha)

end Operation

end SessionAuth
