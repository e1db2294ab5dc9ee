import SessionAuth.Proofs.Sequential.Conduct
import SessionAuth.Proofs.User.Accounts

/-!
# What each call changes

A call is about one account at most, or about one slot. All rows under other ids stay as they are,
and so do all other slots.

* `Call.account?`: the account that a call is there to change; `System.serve_rowsOf` says that it
  changes no other.
* `System.serve_row`: a row keeps its id and its username, and new rows come of insertions.
* `System.serve_findById`: an account that is not deleted keeps its name and its role.
* `System.serve_seen`: what a call shows of an account is what is found under its id.
* `System.Replies.harmless`: an exchange that has changed nothing.
-/

namespace SessionAuth

/-- The account that a call is there to change. A new one gets the next id. -/
def Call.account? (s : System) : Call → Option UserId
  | .insertUser _ => UserId.ofNat? (s.users.lastId + 1)
  | .updatePassword id _ _ | .softDelete id _ => some id
  | _ => none

/-- The slot that a call is there to change. -/
def Call.slot? : Call → Option Slot
  | .saveSession session _ => some session.slot
  | .deleteSession slot => some slot
  | _ => none

theorem Call.idle_of_not_writes {c : Call} (h : ¬ c.Writes) : ¬ c.Rewrites ∧ c.IsQuiet := by
  cases c with
  | insertUser _ | updatePassword _ _ _ | softDelete _ _ | saveSession _ _ | deleteSession _ =>
    exact absurd trivial h
  | _ => exact ⟨fun h => h, trivial⟩

namespace System

variable {faulty : ServiceError → Prop} {s s' : System}

/-! ## Accounts -/

theorem serve_softDelete {id : UserId} {at' : Instant} {a : (Call.softDelete id at').Answer}
    (h : s.serve (.softDelete id at') = some (a, s')) :
    (a = .error UserTable.missing ∧ s.users.findById id = none ∧ s' = s) ∨
      ∃ u users, a = .ok () ∧ s.users.softDelete id at' = .ok (u, users) ∧
        s' = { s with users } := by
  rcases withUsers_cases (Option.some.inj h) with ⟨e, he, rfl, hs⟩ | ⟨_, users, hmap, rfl, rfl⟩
  · left
    cases hfind : s.users.findById id with
    | none =>
      have hmissing : s.users.softDelete id at' = .error UserTable.missing := by
        rw [UserTable.softDelete, UserTable.update, hfind]
      rw [hmissing] at he
      obtain rfl := Except.error.inj he
      exact ⟨rfl, rfl, hs⟩
    | some u =>
      rw [UserTable.softDelete, UserTable.update, hfind] at he
      exact absurd he (by simp [Except.map])
  · right
    rcases hdelete : s.users.softDelete id at' with e | ⟨u, users'⟩
    · rw [hdelete] at hmap
      exact absurd hmap (by simp [Except.map])
    · rw [hdelete] at hmap
      obtain ⟨-, rfl⟩ := Prod.mk.inj (Except.ok.inj hmap)
      exact ⟨u, users', rfl, rfl, rfl⟩

/-- **A call leaves all rows alone but those of the account that it is about.** -/
theorem serve_rowsOf {c : Call} {a : c.Answer} (h : s.serve c = some (a, s')) {other : UserId}
    (hne : ∀ id, c.account? s = some id → other ≠ id) :
    s'.users.rowsOf other = s.users.rowsOf other := by
  cases c with
  | insertUser n =>
    rcases withUsers_cases (Option.some.inj h) with ⟨-, -, -, rfl⟩ | ⟨u, users, hinsert, -, rfl⟩
    · rfl
    · obtain ⟨hid, -⟩ := UserTable.insert_spec hinsert
      exact UserTable.rowsOf_insert hinsert (hne u.id (UserId.ofNat?_eq_some_iff.mpr hid))
  | updatePassword id hash at' =>
    rcases withUsers_cases (Option.some.inj h) with ⟨-, -, -, rfl⟩ | ⟨u, users, hupdate, -, rfl⟩
    · rfl
    · exact UserTable.rowsOf_update (fun u => u.setPassword_id hash at') hupdate (hne id rfl)
  | softDelete id at' =>
    rcases serve_softDelete h with ⟨-, -, rfl⟩ | ⟨u, users, -, hdelete, rfl⟩
    · rfl
    · exact UserTable.rowsOf_update (fun u => u.markDeleted_id at') hdelete (hne id rfl)
  | _ => rw [serve_users h fun h => h]

theorem serve_keyed {c : Call} {a : c.Answer} (h : s.serve c = some (a, s'))
    (hkeyed : s.users.Keyed) : s'.users.Keyed := by
  cases c with
  | insertUser n =>
    rcases withUsers_cases (Option.some.inj h) with ⟨-, -, -, rfl⟩ | ⟨u, users, hinsert, -, rfl⟩
    · exact hkeyed
    · exact hkeyed.insert hinsert
  | updatePassword id hash at' =>
    rcases withUsers_cases (Option.some.inj h) with ⟨-, -, -, rfl⟩ | ⟨u, users, hupdate, -, rfl⟩
    · exact hkeyed
    · exact hkeyed.update hupdate
  | softDelete id at' =>
    rcases serve_softDelete h with ⟨-, -, rfl⟩ | ⟨u, users, -, hdelete, rfl⟩
    · exact hkeyed
    · exact hkeyed.update hdelete
  | _ => rwa [serve_users h fun h => h]

/-- The rows after a change of one of them that leaves ids and usernames alone. -/
theorem exists_row_of_update {t t' : UserTable} {id : UserId} {change : User → User} {u v : User}
    (hid : ∀ u, (change u).id = u.id) (hname : ∀ u, (change u).username = u.username)
    (h : t.update id change = .ok (v, t')) (hu : u ∈ t'.rows) :
    ∃ w ∈ t.rows, w.id = u.id ∧ w.username = u.username := by
  obtain ⟨w, hw, rfl, rfl⟩ := UserTable.update_spec h
  obtain ⟨hlive, -⟩ := UserTable.findById_spec hw
  rcases UserTable.mem_replace.mp hu with ⟨rfl, -⟩ | ⟨hold, -⟩
  · exact ⟨w, (UserTable.mem_live.mp hlive).1, (hid w).symm, (hname w).symm⟩
  · exact ⟨u, hold, rfl, rfl⟩

/-- **A row keeps its id and its username**, and a new one has the username it is added under. -/
theorem serve_row {c : Call} {a : c.Answer} (h : s.serve c = some (a, s')) {u : User}
    (hu : u ∈ s'.users.rows) :
    (∃ v ∈ s.users.rows, v.id = u.id ∧ v.username = u.username) ∨
      ∃ n, c = .insertUser n ∧ u.username = n.username := by
  cases c with
  | insertUser n =>
    rcases withUsers_cases (Option.some.inj h) with ⟨-, -, -, rfl⟩ | ⟨v, users, hinsert, -, rfl⟩
    · exact Or.inl ⟨u, hu, rfl, rfl⟩
    · have hname : v.username = n.username :=
        congrArg User.username (UserTable.withId_of_insert hinsert)
      obtain ⟨-, rfl⟩ := UserTable.insert_spec hinsert
      rcases List.mem_append.mp hu with hold | hnew
      · exact Or.inl ⟨u, hold, rfl, rfl⟩
      · obtain rfl := List.mem_singleton.mp hnew
        exact Or.inr ⟨n, rfl, hname⟩
  | updatePassword id hash at' =>
    rcases withUsers_cases (Option.some.inj h) with ⟨-, -, -, rfl⟩ | ⟨v, users, hupdate, -, rfl⟩
    · exact Or.inl ⟨u, hu, rfl, rfl⟩
    · exact Or.inl (exists_row_of_update (fun w => w.setPassword_id hash at') (fun _ => rfl)
        hupdate hu)
  | softDelete id at' =>
    rcases serve_softDelete h with ⟨-, -, rfl⟩ | ⟨v, users, -, hdelete, rfl⟩
    · exact Or.inl ⟨u, hu, rfl, rfl⟩
    · exact Or.inl (exists_row_of_update (fun w => w.markDeleted_id at') (fun _ => rfl) hdelete hu)
  | _ => exact Or.inl ⟨u, serve_users h (fun h => h) ▸ hu, rfl, rfl⟩

/-- What is not deleted by a call is still found, under the same name and with the same role. -/
theorem serve_findById {c : Call} {a : c.Answer} (h : s.serve c = some (a, s')) {id : UserId}
    {u : User} (hu : s.users.findById id = some u) (hc : ∀ at', c ≠ .softDelete id at') :
    ∃ v, s'.users.findById id = some v ∧ u.Alike v := by
  cases c with
  | insertUser n =>
    rcases withUsers_cases (Option.some.inj h) with ⟨-, -, -, rfl⟩ | ⟨w, users, hinsert, -, rfl⟩
    · exact ⟨u, hu, User.Alike.refl u⟩
    · exact ⟨u, UserTable.findById_insert hinsert hu, User.Alike.refl u⟩
  | updatePassword other hash at' =>
    rcases withUsers_cases (Option.some.inj h) with ⟨-, -, -, rfl⟩ | ⟨w, users, hupdate, -, rfl⟩
    · exact ⟨u, hu, User.Alike.refl u⟩
    · have hid : ∀ u : User, (u.setPassword hash at').id = u.id := fun u => u.setPassword_id _ _
      by_cases he : id = other
      · subst he
        obtain ⟨u', hu', rfl, -⟩ := UserTable.update_spec hupdate
        obtain rfl := Option.some.inj (hu.symm.trans hu')
        have hlive : (u.setPassword hash at').isDeleted = false :=
          (UserTable.mem_live.mp (UserTable.findById_spec hu).1).2
        exact ⟨_, UserTable.findById_update hid hupdate hlive, u.alike_setPassword hash at'⟩
      · refine ⟨u, ?_, User.Alike.refl u⟩
        exact (UserTable.findById_update_of_ne hid hupdate he).trans hu
  | softDelete other at' =>
    have hne : id ≠ other := by
      rintro rfl
      exact hc at' rfl
    refine ⟨u, ?_, User.Alike.refl u⟩
    rw [UserTable.findById_eq_find?, serve_rowsOf h, ← UserTable.findById_eq_find?, hu]
    rintro id' hid'
    obtain rfl := Option.some.inj hid'
    exact hne
  | _ => exact ⟨u, serve_users h (fun h => h) ▸ hu, User.Alike.refl u⟩

/-- **What a call shows of an account is what is found under its id.** -/
theorem serve_seen {x : Exchange} (h : s.serve x.call = some (x.answer, s'))
    (hkeyed : s.users.Keyed) {u : User} (hu : x.seen? = some u) :
    s'.users.findById u.id = some u := by
  obtain ⟨c, a⟩ := x
  cases c with
  | findByUsername name =>
    obtain ⟨rfl, rfl⟩ := Prod.mk.inj (Option.some.inj h)
    exact hkeyed.findById_of_live (UserTable.findByUsername_spec hu).1
  | findById id =>
    obtain ⟨rfl, rfl⟩ := Prod.mk.inj (Option.some.inj h)
    obtain ⟨-, rfl⟩ := UserTable.findById_spec hu
    exact hu
  | updatePassword id hash at' =>
    rcases withUsers_cases (Option.some.inj h) with ⟨e, -, ha, -⟩ | ⟨w, users, hupdate, ha, rfl⟩
    · obtain rfl : a = .error e := ha
      exact absurd hu (by simp [Exchange.seen?])
    · obtain rfl : a = .ok w := ha
      obtain rfl := Option.some.inj hu
      obtain ⟨u', hu', rfl, -⟩ := UserTable.update_spec hupdate
      obtain ⟨hlive, rfl⟩ := UserTable.findById_spec hu'
      have hdel : (u'.setPassword hash at').isDeleted = false := (UserTable.mem_live.mp hlive).2
      exact UserTable.findById_update (fun u => u.setPassword_id hash at') hupdate hdel
  | _ => exact absurd hu (by simp [Exchange.seen?])

theorem Replies.users {x : Exchange} (h : s.Replies faulty x s') (hx : ¬ x.call.Rewrites) :
    s'.users = s.users := by
  rcases h with hserve | ⟨rfl, -⟩
  · exact serve_users hserve hx
  · rfl

theorem Through.users {log : List Exchange} (h : s.Through faulty log s')
    (hlog : ∀ x ∈ log, ¬ x.call.Rewrites) : s'.users = s.users := by
  induction h with
  | nil s => rfl
  | pass hlater _ ih => exact (ih hlog).trans hlater.users
  | @reply s s₁ s' x log hreplies _ ih =>
    have hrest := ih fun y hy => hlog y (List.mem_cons_of_mem x hy)
    exact hrest.trans (hreplies.users (hlog x List.mem_cons_self))

/-! ## Slots -/

/-- A call leaves all slots alone but the one that it is about. -/
theorem serve_untouched_of_slot? {c : Call} {a : c.Answer} (h : s.serve c = some (a, s'))
    {slot : Slot} (hslot : c.slot? ≠ some slot) : Untouched s s' slot := by
  apply serve_untouched h
  · rintro session hsaves rfl
    cases c with
    | saveSession other ttl =>
      obtain rfl := Option.some.inj hsaves
      exact hslot rfl
    | _ => exact absurd hsaves (by simp [Call.saves?])
  · rintro rfl
    exact hslot rfl

theorem Replies.untouched {x : Exchange} (h : s.Replies faulty x s') {slot : Slot}
    (hslot : x.call.slot? ≠ some slot) : Untouched s s' slot := by
  rcases h with hserve | ⟨rfl, -⟩
  · exact serve_untouched_of_slot? hserve hslot
  · exact Untouched.refl _ slot

theorem Through.kept {log : List Exchange} (h : s.Through faulty log s') {slot : Slot}
    (hlog : ∀ x ∈ log, x.call.slot? ≠ some slot) : Kept s s' slot := by
  induction h with
  | nil s => exact Kept.refl s slot
  | pass hlater hrest ih => exact (hlater.kept slot).trans hrest.onward.uptime (ih hlog)
  | @reply s s₁ s' x log hreplies hrest ih =>
    have huntouched := hreplies.untouched (hlog x List.mem_cons_self)
    have hkept := ih fun y hy => hlog y (List.mem_cons_of_mem x hy)
    exact (huntouched.kept hreplies.sameClocks).trans hrest.onward.uptime hkept

/-! ## Exchanges that change nothing -/

/-- An exchange that has changed nothing leaves all accounts and all slots as they were. -/
theorem Replies.harmless {x : Exchange} (h : s.Replies faulty x s') (hx : x.Harmless) :
    s'.users = s.users ∧ ∀ slot, Untouched s s' slot := by
  rcases h with hserve | ⟨rfl, -⟩
  · by_cases hwrites : x.call.Writes
    · -- A call that writes is answered with an error only if it has not been carried out.
      obtain ⟨e, he⟩ := hx.resolve_left fun h => h hwrites
      have hsame : s' = s := by
        obtain ⟨c, a⟩ := x
        cases c with
        | insertUser n =>
          rcases withUsers_cases (Option.some.inj hserve) with ⟨-, -, -, rfl⟩ | ⟨u, -, -, ha, -⟩
          · rfl
          · obtain rfl : a = .ok u := ha
            exact absurd he (by simp [Exchange.error?])
        | updatePassword id hash at' =>
          rcases withUsers_cases (Option.some.inj hserve) with ⟨-, -, -, rfl⟩ | ⟨u, -, -, ha, -⟩
          · rfl
          · obtain rfl : a = .ok u := ha
            exact absurd he (by simp [Exchange.error?])
        | softDelete id at' =>
          rcases serve_softDelete hserve with ⟨-, -, rfl⟩ | ⟨u, users, ha, -, -⟩
          · rfl
          · obtain rfl : a = .ok () := ha
            exact absurd he (by simp [Exchange.error?])
        | saveSession session ttl =>
          obtain ⟨sessions, -, hok⟩ := Option.map_eq_some_iff.mp hserve
          obtain rfl : Except.ok () = a := (Prod.mk.inj hok).1
          exact absurd he (by simp [Exchange.error?])
        | deleteSession slot =>
          obtain ⟨ha, -⟩ := Prod.mk.inj (Option.some.inj hserve)
          obtain rfl : Except.ok () = a := ha
          exact absurd he (by simp [Exchange.error?])
        | _ => exact hwrites.elim
      rw [hsame]
      exact ⟨rfl, Untouched.refl s⟩
    · obtain ⟨hrewrites, hquiet⟩ := Call.idle_of_not_writes hwrites
      exact ⟨serve_users hserve hrewrites, (serve_quiet hquiet hserve).untouched⟩
  · exact ⟨rfl, Untouched.refl _⟩

/-- As long as nothing is changed, all accounts stay, and so do all slots. -/
theorem Through.harmless {log : List Exchange} (h : s.Through faulty log s')
    (hlog : AllHarmless log) : s'.users = s.users ∧ ∀ slot, Kept s s' slot := by
  induction h with
  | nil s => exact ⟨rfl, Kept.refl s⟩
  | pass hlater hrest ih =>
    obtain ⟨husers, hkept⟩ := ih hlog
    refine ⟨husers.trans hlater.users, fun slot => ?_⟩
    exact (hlater.kept slot).trans hrest.onward.uptime (hkept slot)
  | @reply s s₁ s' x log hreplies hrest ih =>
    obtain ⟨hfirst, huntouched⟩ := hreplies.harmless (hlog x List.mem_cons_self)
    obtain ⟨husers, hkept⟩ := ih fun y hy => hlog y (List.mem_cons_of_mem x hy)
    refine ⟨husers.trans hfirst, fun slot => ?_⟩
    exact ((huntouched slot).kept hreplies.sameClocks).trans hrest.onward.uptime (hkept slot)

end System

end SessionAuth
