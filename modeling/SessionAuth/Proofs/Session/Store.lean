import SessionAuth.Proofs.Text.Decimal
import SessionAuth.Session.Store

/-!
# What the slots hold

Slots have different keys, so an operation on one slot leaves the others alone, and a slot that is
cleared because its token has expired looks no different from then on.

* `Slot.key_injective`: different slots have different keys.
* `live?_put`, `live?_delete`, `live?_get`: the slots after each operation.
* `holds?`: the token in a slot, expired or not; only saving puts one there.
-/

namespace SessionAuth

/-! ## Keys of slots -/

theorem Slot.key_toList (slot : Slot) :
    slot.key.toList =
      "token:user:".toList ++ (Nat.toDigits 10 slot.user.val ++ ':' :: slot.kind.name.toList) := by
  simp only [Slot.key, UserId.text, String.toList_append, Text.natText_toList, List.append_assoc]
  rfl

/-- **Different slots have different keys.** -/
theorem Slot.key_injective {a b : Slot} (h : a.key = b.key) : a = b := by
  have hlist := congrArg String.toList h
  rw [Slot.key_toList, Slot.key_toList] at hlist
  have htail := List.append_cancel_left hlist
  -- The user id in a key ends before the first character that is no digit.
  have hid : ∀ (n : Nat) rest, (Nat.toDigits 10 n ++ ':' :: rest).takeWhile Char.isDigit =
      Nat.toDigits 10 n := fun n rest =>
    Text.takeWhile_isDigit_append (fun _ => Text.isDigit_of_mem_toDigits) (by simp)
  have hdigits : Nat.toDigits 10 a.user.val = Nat.toDigits 10 b.user.val := by
    rw [← hid a.user.val, htail, hid]
  rw [hdigits] at htail
  have hname : a.kind.name = b.kind.name :=
    String.toList_inj.mp (List.cons.inj (List.append_cancel_left htail)).2
  have hval : a.user.val = b.user.val :=
    Text.natText_injective (congrArg String.ofList hdigits)
  have hkind : some a.kind = some b.kind := by
    rw [← TokenKind.ofName?_name a.kind, hname, TokenKind.ofName?_name]
  obtain ⟨u, k⟩ := a
  obtain ⟨v, l⟩ := b
  obtain rfl : u = v := UserId.ext hval
  obtain rfl : k = l := Option.some.inj hkind
  rfl

theorem Slot.key_ne {a b : Slot} (h : a ≠ b) : a.key ≠ b.key := fun he => h (Slot.key_injective he)

/-- A presented token is the one on record. -/
theorem Session.any_isFor_iff {stored : Option Session} {presented : String} :
    stored.any (·.isFor presented) = true ↔
      ∃ session, stored = some session ∧ session.token = presented ∧ presented ≠ "" := by
  cases stored with
  | none => simp
  | some session =>
    simp only [Option.any_some, Session.isFor, Bool.and_eq_true, Bool.not_eq_true', beq_iff_eq,
      Option.some.injEq, exists_eq_left']
    constructor
    · rintro ⟨hne, rfl⟩
      exact ⟨rfl, fun he => by simp [he] at hne⟩
    · rintro ⟨rfl, hne⟩
      exact ⟨by simpa using hne, rfl⟩

namespace SessionStore

/-! ## Entries -/

theorem entryAt?_remove_self (s : SessionStore) (key : String) :
    (s.remove key).entryAt? key = none := by
  simp [entryAt?, remove]

theorem entryAt?_remove_of_ne (s : SessionStore) {key other : String} (h : other ≠ key) :
    (s.remove key).entryAt? other = s.entryAt? other := by
  rw [entryAt?, entryAt?, remove, List.find?_filter]
  congr 1
  funext e
  by_cases he : e.key = other
  · simp [he, h]
  · simp [he]

theorem entryAt?_put_self (s : SessionStore) (e : CacheEntry) :
    (s.put e).entryAt? e.key = some e := by
  simp [entryAt?, put]

theorem entryAt?_put_of_ne (s : SessionStore) {e : CacheEntry} {other : String}
    (h : other ≠ e.key) : (s.put e).entryAt? other = s.entryAt? other := by
  have hcons : (s.put e).entryAt? other = (s.remove e.key).entryAt? other := by
    simp [entryAt?, put, h.symm]
  rw [hcons, entryAt?_remove_of_ne s h]

/-! ## Live tokens -/

theorem live?_empty (t : Nat) (slot : Slot) : empty.live? t slot = none := rfl

/-- A slot that holds nothing any more will never do so by itself. -/
theorem live?_eq_none_of_le {s : SessionStore} {t t' : Nat} {slot : Slot}
    (h : s.live? t slot = none) (hle : t ≤ t') : s.live? t' slot = none := by
  unfold live? at *
  cases hentry : s.entryAt? slot.key with
  | none => rfl
  | some e =>
    have hexpired : ¬ t < e.expires := by simpa [hentry, Option.filter_some] using h
    have hlater : ¬ t' < e.expires := by omega
    simp [Option.filter_some, hlater]

theorem live?_put (s : SessionStore) (t : Nat) (slot other : Slot) (token : String)
    (expires : Nat) :
    (s.put ⟨slot.key, token, expires⟩).live? t other =
      if other = slot then (if t < expires then some token else none) else s.live? t other := by
  split
  · rename_i h
    subst h
    rw [live?, entryAt?_put_self s ⟨other.key, token, expires⟩, Option.filter_some]
    by_cases ht : t < expires
    · simp [ht]
    · simp [ht]
  · rename_i h
    have hkey : other.key ≠ slot.key := Slot.key_ne h
    rw [live?, live?, entryAt?_put_of_ne s hkey]

theorem live?_delete (s : SessionStore) (t : Nat) (slot other : Slot) :
    (s.delete slot).live? t other = if other = slot then none else s.live? t other := by
  split
  · rename_i h
    subst h
    rw [live?, delete, entryAt?_remove_self]
    rfl
  · rename_i h
    rw [live?, live?, delete, entryAt?_remove_of_ne s (Slot.key_ne h)]

theorem get_fst (s : SessionStore) (now : Nat) (slot : Slot) :
    (s.get now slot).1 = (s.live? now slot).map fun token => ⟨slot.user, slot.kind, token⟩ := by
  rw [get]
  cases s.live? now slot <;> rfl

/-- Reading a slot changes nothing about what the slots hold from then on. -/
theorem live?_get (s : SessionStore) {now t : Nat} (slot other : Slot) (h : now ≤ t) :
    (s.get now slot).2.live? t other = s.live? t other := by
  rw [get]
  cases hlive : s.live? now slot with
  | some token => rfl
  | none =>
    have hdelete := live?_delete s t slot other
    rw [delete] at hdelete
    rw [hdelete]
    split
    · rename_i he
      subst he
      exact (live?_eq_none_of_le hlive h).symm
    · rfl

theorem lifetime_pos (d : Duration) : 0 < (lifetime d).nanos := by
  unfold lifetime
  split
  · decide
  · omega

theorem live?_save {s s' : SessionStore} {now : Nat} {session : Session} {ttl : Duration}
    (h : s.save now session ttl = some s') (t : Nat) (other : Slot) :
    s'.live? t other = if other = session.slot then
      (if t < now + (lifetime ttl).nanos then some session.token else none)
      else s.live? t other := by
  simp only [save, Option.ite_none_right_eq_some, Option.some.injEq] at h
  obtain ⟨-, rfl⟩ := h
  exact live?_put s t session.slot other session.token _

/-! ## Tokens, expired or not -/

/-- The token in a slot, expired or not. -/
def holds? (s : SessionStore) (slot : Slot) : Option String :=
  (s.entryAt? slot.key).map (·.token)

theorem holds?_empty (slot : Slot) : empty.holds? slot = none := rfl

theorem holds?_of_live? {s : SessionStore} {t : Nat} {slot : Slot} {token : String}
    (h : s.live? t slot = some token) : s.holds? slot = some token := by
  obtain ⟨e, he, rfl⟩ := Option.map_eq_some_iff.mp h
  obtain ⟨hentry, -⟩ := Option.filter_eq_some_iff.mp he
  rw [holds?, hentry, Option.map_some]

/-- A slot without an entry is empty at any time. -/
theorem live?_eq_none_of_holds? {s : SessionStore} {slot : Slot} (h : s.holds? slot = none)
    (t : Nat) : s.live? t slot = none := by
  refine Option.eq_none_iff_forall_ne_some.mpr fun token hlive => ?_
  exact absurd (h.symm.trans (holds?_of_live? hlive)) (by simp)

theorem holds?_put (s : SessionStore) (slot other : Slot) (token : String) (expires : Nat) :
    (s.put ⟨slot.key, token, expires⟩).holds? other =
      if other = slot then some token else s.holds? other := by
  split
  · rename_i h
    subst h
    rw [holds?, entryAt?_put_self s ⟨other.key, token, expires⟩, Option.map_some]
  · rename_i h
    have hkey : other.key ≠ slot.key := Slot.key_ne h
    rw [holds?, holds?, entryAt?_put_of_ne s hkey]

theorem holds?_delete (s : SessionStore) (slot other : Slot) :
    (s.delete slot).holds? other = if other = slot then none else s.holds? other := by
  split
  · rename_i h
    subst h
    rw [holds?, delete, entryAt?_remove_self, Option.map_none]
  · rename_i h
    rw [holds?, holds?, delete, entryAt?_remove_of_ne s (Slot.key_ne h)]

theorem holds?_save {s s' : SessionStore} {now : Nat} {session : Session} {ttl : Duration}
    (h : s.save now session ttl = some s') (other : Slot) :
    s'.holds? other = if other = session.slot then some session.token else s.holds? other := by
  simp only [save, Option.ite_none_right_eq_some, Option.some.injEq] at h
  obtain ⟨-, rfl⟩ := h
  exact holds?_put s session.slot other session.token _

/-- Reading puts no token anywhere. -/
theorem holds?_of_holds?_get {s : SessionStore} {now : Nat} {slot other : Slot} {token : String}
    (h : (s.get now slot).2.holds? other = some token) : s.holds? other = some token := by
  rw [get] at h
  cases hlive : s.live? now slot with
  | some live => rwa [hlive] at h
  | none =>
    rw [hlive] at h
    have hdelete := holds?_delete s slot other
    rw [delete] at hdelete
    rw [hdelete] at h
    split at h
    · exact absurd h (by simp)
    · exact h

end SessionStore

end SessionAuth
