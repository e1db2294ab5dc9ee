import SessionAuth.Proofs.Service.Contract
import SessionAuth.Proofs.User.Table

/-!
# What the collaborators do

* `System.serve_fair`: healthy collaborators are fair.
* `System.Quiet`: a change of the system that ends no session and deletes no account;
  `System.serve_quiet` and `Flow.settle_quiet` give the calls and operations that make no other.
-/

namespace SessionAuth

/-- The call puts nothing on record, clears no slot and deletes no account. -/
def Call.IsQuiet : Call → Prop
  | .saveSession _ _ => False
  | .deleteSession _ => False
  | .softDelete _ _ => False
  | _ => True

namespace System

/-! ## Answers -/

/-- A change of the user table either happens or is refused and leaves everything as it is. -/
theorem withUsers_cases {α : Type} {s s' : System} {r : Except DomainError (α × UserTable)}
    {a : Except DomainError α} (h : s.withUsers r = (a, s')) :
    (∃ e, r = .error e ∧ a = .error e ∧ s' = s) ∨
      ∃ b users, r = .ok (b, users) ∧ a = .ok b ∧ s' = { s with users } := by
  rcases r with e | ⟨b, users⟩
  · obtain ⟨rfl, rfl⟩ := Prod.mk.inj h
    exact Or.inl ⟨e, rfl, rfl, rfl⟩
  · obtain ⟨rfl, rfl⟩ := Prod.mk.inj h
    exact Or.inr ⟨b, users, rfl, rfl, rfl⟩

/-- **Healthy collaborators are fair.** -/
theorem serve_fair {s s' : System} {c : Call} {a : c.Answer} (h : s.serve c = some (a, s')) :
    Exchange.Fair ⟨c, a⟩ := by
  cases c with
  | findById id =>
    obtain ⟨rfl, rfl⟩ := Prod.mk.inj (Option.some.inj h)
    cases hfind : s.users.findById id with
    | none => trivial
    | some user => exact (UserTable.findById_spec hfind).2
  | updatePassword id hash at' =>
    rcases withUsers_cases (Option.some.inj h) with ⟨e, -, rfl, -⟩ | ⟨b, users, hupdate, rfl, -⟩
    · trivial
    · obtain ⟨u, hu, rfl, -⟩ := UserTable.update_spec hupdate
      exact (UserTable.findById_spec hu).2
  | getSession slot =>
    obtain ⟨rfl, -⟩ := Prod.mk.inj (Option.some.inj h)
    change Exchange.Fair ⟨.getSession slot, .ok (s.sessions.get s.uptime slot).1⟩
    rw [SessionStore.get_fst]
    cases s.sessions.live? s.uptime slot with
    | none => trivial
    | some token => rfl
  | _ => trivial

/-! ## Quiet changes -/

/-- No clock moves, every slot holds what it held before, and no account is gone. -/
structure Quiet (s s' : System) : Prop where
  clocks : SameClocks s s'
  untouched : ∀ slot, Untouched s s' slot
  hasLive : ∀ id, s.users.HasLive id → s'.users.HasLive id

theorem Quiet.refl (s : System) : Quiet s s :=
  ⟨SameClocks.refl s, Untouched.refl s, fun _ => id⟩

theorem Quiet.trans {s₁ s₂ s₃ : System} (h : Quiet s₁ s₂) (h' : Quiet s₂ s₃) : Quiet s₁ s₃ :=
  ⟨h.clocks.trans h'.clocks, fun slot => (h.untouched slot).trans h.clocks (h'.untouched slot),
    fun id hid => h'.hasLive id (h.hasLive id hid)⟩

theorem quiet_get (s : System) (slot : Slot) :
    Quiet s { s with sessions := (s.sessions.get s.uptime slot).2 } :=
  ⟨⟨rfl, rfl, rfl, rfl⟩, fun other _ ht => SessionStore.live?_get s.sessions slot other ht,
    fun _ => id⟩

theorem quiet_draw (s : System) : Quiet s { s with draws := s.draws + 1 } :=
  ⟨⟨rfl, rfl, rfl, rfl⟩, fun _ _ _ => rfl, fun _ => id⟩

theorem quiet_users (s : System) {users : UserTable}
    (h : ∀ id, s.users.HasLive id → users.HasLive id) : Quiet s { s with users } :=
  ⟨⟨rfl, rfl, rfl, rfl⟩, fun _ _ _ => rfl, h⟩

theorem serve_quiet {s s' : System} {c : Call} {a : c.Answer} (hc : c.IsQuiet)
    (h : s.serve c = some (a, s')) : Quiet s s' := by
  cases c with
  | insertUser user =>
    rcases withUsers_cases (Option.some.inj h) with ⟨-, -, -, rfl⟩ | ⟨b, users, hinsert, -, rfl⟩
    · exact Quiet.refl _
    · exact quiet_users s fun _ => UserTable.hasLive_insert hinsert
  | updatePassword id hash at' =>
    rcases withUsers_cases (Option.some.inj h) with ⟨-, -, -, rfl⟩ | ⟨b, users, hupdate, -, rfl⟩
    · exact Quiet.refl _
    · exact quiet_users s fun other => (UserTable.hasLive_updatePassword hupdate other).mpr
  | hashPassword password =>
    obtain ⟨-, rfl⟩ := Prod.mk.inj (Option.some.inj h)
    exact quiet_draw s
  | signToken user kind extra =>
    obtain ⟨-, rfl⟩ := Prod.mk.inj (Option.some.inj h)
    exact ⟨⟨rfl, rfl, rfl, rfl⟩, fun _ _ _ => rfl, fun _ => id⟩
  | getSession slot =>
    obtain ⟨-, rfl⟩ := Prod.mk.inj (Option.some.inj h)
    exact quiet_get s slot
  | saveSession _ _ | deleteSession _ | softDelete _ _ => exact hc.elim
  | findByUsername _ | findById _ | checkPassword _ _ | verifyToken _ | readClock =>
    obtain ⟨-, rfl⟩ := Prod.mk.inj (Option.some.inj h)
    exact Quiet.refl _

theorem exists_serve (s : System) {c : Call} (hc : c.IsQuiet) :
    ∃ a s', s.serve c = some (a, s') := by
  cases c with
  | saveSession session ttl => exact hc.elim
  | _ => exact ⟨_, _, rfl⟩

/-! ## Every call -/

theorem serve_save {s s' : System} {session : Session} {ttl : Duration}
    {a : (Call.saveSession session ttl).Answer}
    (h : s.serve (.saveSession session ttl) = some (a, s')) :
    ∃ sessions, s.sessions.save s.uptime session ttl = some sessions ∧
      s' = { s with sessions } := by
  obtain ⟨sessions, hsave, he⟩ := Option.map_eq_some_iff.mp h
  exact ⟨sessions, hsave, (Prod.mk.inj he).2.symm⟩

theorem serve_sameClocks {s s' : System} {c : Call} {a : c.Answer}
    (h : s.serve c = some (a, s')) : SameClocks s s' := by
  by_cases hc : c.IsQuiet
  · exact (serve_quiet hc h).clocks
  cases c with
  | saveSession session ttl =>
    obtain ⟨sessions, -, rfl⟩ := serve_save h
    exact ⟨rfl, rfl, rfl, rfl⟩
  | deleteSession slot =>
    obtain ⟨-, rfl⟩ := Prod.mk.inj (Option.some.inj h)
    exact ⟨rfl, rfl, rfl, rfl⟩
  | softDelete id at' =>
    rcases withUsers_cases (Option.some.inj h) with ⟨-, -, -, rfl⟩ | ⟨b, users, -, -, rfl⟩
    · exact SameClocks.refl _
    · exact ⟨rfl, rfl, rfl, rfl⟩
  | _ => exact absurd trivial hc

/-- Only saving a session and clearing a slot touch a slot. -/
theorem serve_untouched {s s' : System} {c : Call} {a : c.Answer} (h : s.serve c = some (a, s'))
    {slot : Slot} (hsave : ∀ session, c.saves? = some session → slot ≠ session.slot)
    (hdelete : c ≠ .deleteSession slot) : Untouched s s' slot := by
  by_cases hc : c.IsQuiet
  · exact (serve_quiet hc h).untouched slot
  cases c with
  | saveSession session ttl =>
    obtain ⟨sessions, hsessions, rfl⟩ := serve_save h
    intro t _
    exact (SessionStore.live?_save hsessions t slot).trans (if_neg (hsave session rfl))
  | deleteSession other =>
    obtain ⟨-, rfl⟩ := Prod.mk.inj (Option.some.inj h)
    have hne : slot ≠ other := fun he => hdelete (he ▸ rfl)
    intro t _
    exact (SessionStore.live?_delete s.sessions t other slot).trans (if_neg hne)
  | softDelete id at' =>
    rcases withUsers_cases (Option.some.inj h) with ⟨-, -, -, rfl⟩ | ⟨b, users, -, -, rfl⟩
    · exact Untouched.refl _ slot
    · exact fun _ _ => rfl
  | _ => exact absurd trivial hc

theorem live?_of_serve_save {s s' : System} {session : Session} {ttl : Duration}
    {a : (Call.saveSession session ttl).Answer}
    (h : s.serve (.saveSession session ttl) = some (a, s')) :
    s'.live? session.slot = some session.token := by
  obtain ⟨sessions, hsessions, rfl⟩ := serve_save h
  have hlt : s.uptime < s.uptime + (lifetime ttl).nanos :=
    Nat.lt_add_of_pos_right (SessionStore.lifetime_pos ttl)
  refine (SessionStore.live?_save hsessions s.uptime session.slot).trans ?_
  rw [if_pos rfl, if_pos hlt]

/-- Only saving puts a token into a slot. -/
theorem serve_holds? {s s' : System} {c : Call} {a : c.Answer} (h : s.serve c = some (a, s'))
    {slot : Slot} {token : String} (hholds : s'.sessions.holds? slot = some token) :
    s.sessions.holds? slot = some token ∨ c.saves? = some ⟨slot.user, slot.kind, token⟩ := by
  cases c with
  | saveSession session ttl =>
    obtain ⟨sessions, hsave, rfl⟩ := serve_save h
    rw [SessionStore.holds?_save hsave] at hholds
    split at hholds
    · rename_i hslot
      obtain rfl := Option.some.inj hholds
      subst hslot
      exact Or.inr rfl
    · exact Or.inl hholds
  | deleteSession other =>
    obtain ⟨-, rfl⟩ := Prod.mk.inj (Option.some.inj h)
    rw [SessionStore.holds?_delete] at hholds
    split at hholds
    · exact absurd hholds (by simp)
    · exact Or.inl hholds
  | getSession other =>
    obtain ⟨-, rfl⟩ := Prod.mk.inj (Option.some.inj h)
    exact Or.inl (SessionStore.holds?_of_holds?_get hholds)
  | insertUser _ | updatePassword _ _ _ | softDelete _ _ =>
    rcases withUsers_cases (Option.some.inj h) with ⟨-, -, -, rfl⟩ | ⟨b, users, -, -, rfl⟩
    · exact Or.inl hholds
    · exact Or.inl hholds
  | findByUsername _ | findById _ | checkPassword _ _ | verifyToken _ | readClock | hashPassword _
  | signToken _ _ _ =>
    obtain ⟨-, rfl⟩ := Prod.mk.inj (Option.some.inj h)
    exact Or.inl hholds

/-- Only a deletion takes an account away. -/
theorem serve_hasLive {s s' : System} {c : Call} {a : c.Answer}
    (h : s.serve c = some (a, s')) (hc : ∀ id at', c ≠ .softDelete id at') {user : UserId}
    (hlive : s.users.HasLive user) : s'.users.HasLive user := by
  by_cases hquiet : c.IsQuiet
  · exact (serve_quiet hquiet h).hasLive user hlive
  cases c with
  | saveSession session ttl =>
    obtain ⟨sessions, -, rfl⟩ := serve_save h
    exact hlive
  | deleteSession slot =>
    obtain ⟨-, rfl⟩ := Prod.mk.inj (Option.some.inj h)
    exact hlive
  | softDelete id at' => exact absurd rfl (hc id at')
  | _ => exact absurd trivial hquiet

/-- A deleted account stays deleted. -/
theorem serve_deleted {s s' : System} {c : Call} {a : c.Answer} (h : s.serve c = some (a, s'))
    {id : UserId} (hdeleted : s.users.Deleted id) : s'.users.Deleted id := by
  cases c with
  | insertUser user =>
    rcases withUsers_cases (Option.some.inj h) with ⟨-, -, -, rfl⟩ | ⟨b, users, hinsert, -, rfl⟩
    · exact hdeleted
    · exact hdeleted.insert hinsert
  | updatePassword other hash at' =>
    rcases withUsers_cases (Option.some.inj h) with ⟨-, -, -, rfl⟩ | ⟨b, users, hupdate, -, rfl⟩
    · exact hdeleted
    · exact hdeleted.update (fun u => u.setPassword_id hash at') hupdate
  | softDelete other at' =>
    rcases withUsers_cases (Option.some.inj h) with ⟨-, -, -, rfl⟩ | ⟨b, users, hmap, -, rfl⟩
    · exact hdeleted
    · rcases hdelete : s.users.softDelete other at' with e | ⟨user, users'⟩
      · rw [hdelete] at hmap
        exact absurd hmap (by simp [Except.map])
      · rw [hdelete] at hmap
        obtain ⟨-, rfl⟩ := Prod.mk.inj (Except.ok.inj hmap)
        exact hdeleted.update (fun u => u.markDeleted_id at') hdelete
  | saveSession session ttl =>
    obtain ⟨sessions, -, rfl⟩ := serve_save h
    exact hdeleted
  | _ =>
    obtain ⟨-, rfl⟩ := Prod.mk.inj (Option.some.inj h)
    exact hdeleted

theorem serve_issued {s s' : System} {c : Call} {a : c.Answer} (h : s.serve c = some (a, s')) :
    s.issued <:+ s'.issued := by
  cases c with
  | signToken user kind extra =>
    obtain ⟨-, rfl⟩ := Prod.mk.inj (Option.some.inj h)
    exact List.suffix_cons _ _
  | saveSession session ttl =>
    obtain ⟨sessions, -, rfl⟩ := serve_save h
    exact List.suffix_refl _
  | insertUser _ | updatePassword _ _ _ | softDelete _ _ =>
    rcases withUsers_cases (Option.some.inj h) with ⟨-, -, -, rfl⟩ | ⟨b, users, -, -, rfl⟩
    · exact List.suffix_refl _
    · exact List.suffix_refl _
  | _ =>
    obtain ⟨-, rfl⟩ := Prod.mk.inj (Option.some.inj h)
    exact List.suffix_refl _

theorem issued_of_serve_sign {s s' : System} {user : UserId} {kind : TokenKind} {extra : Claims}
    {token : String} (h : s.serve (.signToken user kind extra) = some (.ok token, s')) :
    s'.issued = token :: s.issued := by
  obtain ⟨htoken, rfl⟩ := Prod.mk.inj (Option.some.inj h)
  obtain rfl := Except.ok.inj htoken
  rfl

theorem genuine_of_serve_sign {s s' : System} {user : UserId} {kind : TokenKind} {extra : Claims}
    {token : String} (h : s.serve (.signToken user kind extra) = some (.ok token, s'))
    (hcalendar : s.now.inCalendar = true) (hextra : TokenProvider.Supplement extra) :
    s.provider.Genuine token user kind (s.expiry kind) := by
  obtain ⟨hbound, hbound'⟩ := Instant.bounds_of_inCalendar hcalendar
  obtain ⟨htoken, -⟩ := Prod.mk.inj (Option.some.inj h)
  obtain rfl := Except.ok.inj htoken
  exact TokenProvider.genuine_issue hbound (Int.le_of_lt hbound') hextra

theorem live?_of_serve_get {s s' : System} {slot : Slot} {session : Session}
    (h : s.serve (.getSession slot) = some (.ok (some session), s')) :
    s.live? slot = some session.token := by
  have hget : Except.ok (s.sessions.get s.uptime slot).1 =
      Except.ok (ε := ServiceError) (some session) := (Prod.mk.inj (Option.some.inj h)).1
  rw [SessionStore.get_fst] at hget
  obtain ⟨token, hlive, rfl⟩ := Option.map_eq_some_iff.mp (Except.ok.inj hget)
  exact hlive

end System

theorem Flow.exists_settle {α : Type} {safe : List Exchange → Call → Prop}
    {post : List Exchange → α → Prop} {past : List Exchange} {x : Flow α}
    (h : x.Along safe post past) (hsafe : ∀ past c, safe past c → c.IsQuiet) (s : System) :
    ∃ a s', x.settle s = some (a, s') := by
  induction x generalizing past s with
  | done b => exact ⟨b, s, rfl⟩
  | call c next ih =>
    obtain ⟨answer, s₁, hserve⟩ := s.exists_serve (hsafe past c h.1)
    obtain ⟨a, s', hrest⟩ := ih answer (h.2 answer (System.serve_fair hserve)) s₁
    refine ⟨a, s', ?_⟩
    rw [settle_call, hserve, Option.bind_some, hrest]

theorem Flow.settle_quiet {α : Type} {safe : List Exchange → Call → Prop}
    {post : List Exchange → α → Prop} {past : List Exchange} {x : Flow α} {s s' : System} {a : α}
    (h : x.Along safe post past) (hsafe : ∀ past c, safe past c → c.IsQuiet)
    (hsettle : x.settle s = some (a, s')) : System.Quiet s s' := by
  induction x generalizing past s with
  | done b =>
    obtain ⟨-, rfl⟩ := Prod.mk.inj (Option.some.inj hsettle)
    exact System.Quiet.refl _
  | call c next ih =>
    rw [settle_call] at hsettle
    obtain ⟨⟨answer, s₁⟩, hserve, hrest⟩ := Option.bind_eq_some_iff.mp hsettle
    have hfirst := System.serve_quiet (hsafe past c h.1) hserve
    exact hfirst.trans (ih answer (h.2 answer (System.serve_fair hserve)) hrest)

end SessionAuth
