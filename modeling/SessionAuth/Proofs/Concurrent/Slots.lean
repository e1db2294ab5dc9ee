import SessionAuth.Proofs.Concurrent.World

/-!
# The slots while requests go side by side

What a slot holds was put there by one of the requests, and each of them has kept to its contract
up to then. So whatever happens, a slot holds a genuine token for its user and of its kind.

* `step_system`: all that a step can do to the collaborators.
* `Exchange.Sets`: what an exchange leaves in a slot.
* `exists_save`: a token that turns up in a slot was put on record meanwhile.
* `Thread.Generated`: a request has signed a token after the checks that entitle it to do so.
* `generated_of_holds`: every token in a slot has been signed by such a request.
-/

namespace SessionAuth

/-- What a slot holds once the exchange has taken place. -/
def Exchange.Sets (slot : Slot) (content : Option String) : Exchange → Prop
  | ⟨.deleteSession other, .ok ()⟩ => other = slot ∧ content = none
  | ⟨.saveSession session _, .ok ()⟩ => session.slot = slot ∧ content = some session.token
  | _ => False

namespace System

theorem Answers.serve {faults : Bool} {s s' : System} {x : Exchange} (h : s.Answers faults x s')
    (hok : ¬ x.Failed) : s.serve x.call = some (x.answer, s') := by
  rcases h with h | ⟨-, hfailed, -⟩
  · exact h
  · exact absurd hfailed hok

/-- Whatever is answered, the call has done either nothing or what it is there for. -/
theorem Answers.cases {faults : Bool} {s s' : System} {x : Exchange}
    (h : s.Answers faults x s') : s' = s ∨ ∃ a, s.serve x.call = some (a, s') := by
  rcases h with h | ⟨-, -, h⟩
  · exact Or.inr ⟨_, h⟩
  · exact h

end System

namespace Concurrent

open Service

variable {faults : Bool} {w₀ w w' : World}

/-! ## The collaborators -/

theorem Exchanges.answers {i : Nat} {x : Exchange} (h : Exchanges faults i x w w') :
    w.system.Answers faults x w'.system := by
  cases h with
  | mk thread answers => exact answers

/-- **All that a step can do to the collaborators**: nothing, or time passes, or they are called. -/
theorem step_system (h : Step faults w w') :
    w'.system = w.system ∨ w.system.Later w'.system ∨
      ∃ i x a, Exchanges faults i x w w' ∧ w.system.serve x.call = some (a, w'.system) := by
  cases h with
  | start s threads r => exact Or.inl rfl
  | pass h => exact Or.inr (Or.inl h)
  | exchange h =>
    rcases h.answers.cases with he | ⟨a, ha⟩
    · exact Or.inl he
    · exact Or.inr (Or.inr ⟨_, _, a, h, ha⟩)

theorem run_provider (h : Run faults w w') : w'.system.provider = w.system.provider := by
  induction h with
  | refl => rfl
  | tail _ hstep ih =>
    rcases step_system hstep with he | hlater | ⟨i, x, a, -, hserve⟩
    · rw [he, ih]
    · rw [hlater.onlyClocks, ih]
    · rw [(System.serve_sameClocks hserve).provider, ih]

theorem run_inCalendar (hfresh : w.Fresh) (h : Run faults w w') :
    w'.system.now.inCalendar = true := by
  induction h with
  | refl => exact hfresh.inCalendar
  | tail _ hstep ih =>
    rcases step_system hstep with he | hlater | ⟨i, x, a, -, hserve⟩
    · rw [he, ih]
    · exact hlater.inCalendar
    · rw [(System.serve_sameClocks hserve).now, ih]

theorem run_issued (h : Run faults w w') : w.system.issued <:+ w'.system.issued := by
  induction h with
  | refl => exact List.suffix_refl _
  | tail _ hstep ih =>
    rcases step_system hstep with he | hlater | ⟨i, x, a, -, hserve⟩
    · rwa [he]
    · rwa [hlater.onlyClocks]
    · exact ih.trans (System.serve_issued hserve)

theorem run_deleted (h : Run faults w w') {id : UserId} (hdeleted : w.system.users.Deleted id) :
    w'.system.users.Deleted id := by
  induction h with
  | refl => exact hdeleted
  | tail _ hstep ih =>
    rcases step_system hstep with he | hlater | ⟨i, x, a, -, hserve⟩
    · rwa [he]
    · rwa [hlater.onlyClocks]
    · exact System.serve_deleted hserve ih

/-- An account remains while nobody deletes it. -/
theorem run_hasLive (hrun : Run faults w w') (h : ∀ j x w₁ w₂, Run faults w w₁ →
      Exchanges faults j x w₁ w₂ → Run faults w₂ w' → ∀ id at', x.call ≠ .softDelete id at')
    {user : UserId} (hlive : w.system.users.HasLive user) : w'.system.users.HasLive user := by
  induction hrun with
  | refl => exact hlive
  | @tail w₁ w₂ hrun hstep ih =>
    have hlive₁ := ih fun j x w₃ w₄ h₁ hx h₂ => h j x w₃ w₄ h₁ hx (h₂.tail hstep)
    rcases step_system hstep with he | hlater | ⟨j, x, a, hexchange, hserve⟩
    · rwa [he]
    · rwa [hlater.onlyClocks]
    · exact System.serve_hasLive hserve (h j x w₁ w₂ hrun hexchange .refl) hlive₁

/-! ## What is on record -/

/-- **A token that turns up in a slot was put on record meanwhile.** -/
theorem exists_save (h : Run faults w w') {slot : Slot} {token : String}
    (hholds : w'.system.sessions.holds? slot = some token) :
    w.system.sessions.holds? slot = some token ∨
      ∃ j x w₁ w₂, Run faults w w₁ ∧ Exchanges faults j x w₁ w₂ ∧ Run faults w₂ w' ∧
        x.call.saves? = some ⟨slot.user, slot.kind, token⟩ := by
  induction h with
  | refl => exact Or.inl hholds
  | @tail w₁ w₂ hrun hstep ih =>
    have hearlier : w₁.system.sessions.holds? slot = some token ∨
        ∃ j x, Exchanges faults j x w₁ w₂ ∧
          x.call.saves? = some ⟨slot.user, slot.kind, token⟩ := by
      rcases step_system hstep with he | hlater | ⟨j, x, a, hexchange, hserve⟩
      · exact Or.inl (he ▸ hholds)
      · rw [hlater.onlyClocks] at hholds
        exact Or.inl hholds
      · exact (System.serve_holds? hserve hholds).imp id fun hsaves => ⟨j, x, hexchange, hsaves⟩
    rcases hearlier with hearlier | ⟨j, x, hexchange, hsaves⟩
    · rcases ih hearlier with hfirst | ⟨j, x, w₃, w₄, h₁, h₂, h₃, hsaves⟩
      · exact Or.inl hfirst
      · exact Or.inr ⟨j, x, w₃, w₄, h₁, h₂, h₃.tail hstep, hsaves⟩
    · exact Or.inr ⟨j, x, w₁, w₂, hrun, hexchange, .refl, hsaves⟩

theorem Exchanges.holds?_of_sets {i : Nat} {x : Exchange} (h : Exchanges faults i x w w')
    {slot : Slot} {content : Option String} (hsets : x.Sets slot content) :
    w'.system.sessions.holds? slot = content := by
  obtain ⟨c, a⟩ := x
  cases c with
  | deleteSession other =>
    rcases a with e | ⟨⟩
    · exact hsets.elim
    obtain ⟨rfl, rfl⟩ := hsets
    have hserve := h.answers.serve (by simp [Exchange.Failed])
    have hsystem := (Prod.mk.inj (Option.some.inj hserve)).2
    rw [← hsystem]
    exact (SessionStore.holds?_delete _ other other).trans (if_pos rfl)
  | saveSession session ttl =>
    rcases a with e | ⟨⟩
    · exact hsets.elim
    obtain ⟨rfl, rfl⟩ := hsets
    have hserve := h.answers.serve (by simp [Exchange.Failed])
    obtain ⟨sessions, hsave, hsystem⟩ := System.serve_save hserve
    rw [hsystem]
    exact (SessionStore.holds?_save hsave session.slot).trans (if_pos rfl)
  | _ => exact hsets.elim

/-! ## Who signed it -/

theorem Exchanges.safe (hfresh : w₀.Fresh) (hrun : Run faults w₀ w) {i : Nat} {x : Exchange}
    (h : Exchanges faults i x w w') :
    ∃ t, w.threads[i]? = some t ∧ t.request.Safe t.past x.call := by
  cases h with
  | @mk s s' threads r past next thread answers =>
    have hlawful := lawful_of_run hfresh hrun thread
    exact ⟨_, thread, hlawful.along.1⟩

/-- The request has signed a token itself, after the checks that entitle it to do so. -/
def Thread.Generated (t : Thread) (user : UserId) (kind : TokenKind) (token : String) : Prop :=
  ∃ before extra after, t.past = before ++ ⟨.signToken user kind extra, .ok token⟩ :: after ∧
    t.request.Entitled before user

theorem Thread.Generated.grows {t t' : Thread} {user : UserId} {kind : TokenKind} {token : String}
    (h : t.Generated user kind token) (hgrows : t.Grows t') : t'.Generated user kind token := by
  obtain ⟨before, extra, after, hpast, hentitled⟩ := h
  obtain ⟨more, hmore⟩ := hgrows.past
  refine ⟨before, extra, after ++ more, ?_, hgrows.request.symm ▸ hentitled⟩
  rw [← hmore, hpast, List.append_assoc, List.cons_append]

theorem Thread.Generated.signed {t : Thread} {user : UserId} {kind : TokenKind} {token : String}
    (h : t.Generated user kind token) :
    ∃ extra, ⟨.signToken user kind extra, .ok token⟩ ∈ t.past := by
  obtain ⟨before, extra, after, hpast, -⟩ := h
  exact ⟨extra, hpast ▸ List.mem_append_right _ List.mem_cons_self⟩

theorem Thread.Lawful.generated {t : Thread} (h : t.Lawful) {user : UserId} {kind : TokenKind}
    {extra : Claims} {token : String}
    (hsign : ⟨.signToken user kind extra, .ok token⟩ ∈ t.past) : t.Generated user kind token := by
  obtain ⟨before, after, hpast⟩ := List.append_of_mem hsign
  exact ⟨before, extra, after, hpast, (h.safe _ _ _ hpast).2⟩

theorem Thread.Lawful.generated_of_recorded {t : Thread} (h : t.Lawful) {session : Session}
    (hrecorded : Recorded session t.past) :
    t.Generated session.user session.kind session.token := by
  obtain ⟨ttl, hsave⟩ := hrecorded
  obtain ⟨before, after, hpast⟩ := List.append_of_mem hsave
  obtain ⟨-, ⟨extra, hsign⟩, -⟩ := h.safe before _ after hpast
  have hmem : ⟨.signToken session.user session.kind extra, .ok session.token⟩ ∈ t.past := by
    rw [hpast]
    exact List.mem_append_left _ hsign
  exact h.generated hmem

/-- A request has signed what it puts on record, and it does so once for each kind. -/
theorem Exchanges.saves (hfresh : w₀.Fresh) (hrun : Run faults w₀ w) {i : Nat} {x : Exchange}
    (h : Exchanges faults i x w w') {session : Session} (hsaves : x.call.saves? = some session) :
    ∃ t, w.threads[i]? = some t ∧ t.Generated session.user session.kind session.token ∧
      Request.Unsaved session.kind t.past := by
  obtain ⟨t, ht, hsafe⟩ := h.safe hfresh hrun
  obtain ⟨c, a⟩ := x
  cases c with
  | saveSession session' ttl =>
    obtain rfl := Option.some.inj hsaves
    obtain ⟨-, ⟨extra, hsign⟩, hunsaved⟩ := hsafe
    exact ⟨t, ht, (lawful_of_run hfresh hrun ht).generated hsign, hunsaved⟩
  | _ => exact absurd hsaves (by simp [Call.saves?])

theorem genuine_of_generated (hfresh : w₀.Fresh) (hrun : Run faults w₀ w) {i : Nat} {t : Thread}
    (ht : w.threads[i]? = some t) {user : UserId} {kind : TokenKind} {token : String}
    (h : t.Generated user kind token) :
    ∃ expires, w.system.provider.Genuine token user kind expires := by
  obtain ⟨before, extra, after, hpast, -⟩ := h
  have hextra := ((lawful_of_run hfresh hrun ht).safe _ _ _ hpast).1
  obtain ⟨w₁, w₂, hrun₁, hexchange, -⟩ := exists_moment hfresh hrun ht
    (hpast ▸ List.mem_append_right _ List.mem_cons_self)
  have hserve := hexchange.answers.serve (by simp [Exchange.Failed])
  have hgenuine := System.genuine_of_serve_sign hserve (run_inCalendar hfresh hrun₁) hextra
  refine ⟨w₁.system.expiry kind, ?_⟩
  rwa [run_provider hrun, ← run_provider hrun₁]

/-- **Every token in a slot has been generated by a request that has put it on record.** -/
theorem generated_of_holds (hfresh : w₀.Fresh) (hrun : Run faults w₀ w) {slot : Slot}
    {token : String} (h : w.system.sessions.holds? slot = some token) :
    ∃ (i : Nat) (t : Thread), w.threads[i]? = some t ∧ t.Generated slot.user slot.kind token := by
  rcases exists_save hrun h with hfirst | ⟨i, x, w₁, w₂, hrun₁, hexchange, hrun₂, hsaves⟩
  · rw [hfresh.sessions] at hfirst
    exact absurd hfirst (by simp [SessionStore.holds?_empty])
  · obtain ⟨t, ht, hgenerated, -⟩ := hexchange.saves hfresh hrun₁ hsaves
    obtain ⟨t', ht', hgrows⟩ := run_grows (hrun₂.head hexchange.step) ht
    exact ⟨i, t', ht', hgenerated.grows hgrows⟩

end Concurrent

end SessionAuth
