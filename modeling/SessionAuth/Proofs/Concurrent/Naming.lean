import SessionAuth.Proofs.Concurrent.Schedule
import SessionAuth.Proofs.Sequential.Registration
import SessionAuth.Proofs.User.Username

/-!
# Where usernames come from

Only registrations add accounts, each under the username that its text spells, and whatever else
happens to an account leaves its username alone. So all usernames keep to the rule that texts are
read by, in characters or in bytes.

* `Request.AddsOwn`: the accounts that a request may add; `Request.along_addsOwn` says that every
  request keeps to it.
* `World.Registers`: a registration has asked for the username.
* `row_of_run`: the rows after a run.
* `named_as_registered`: every username is the trimmed text of a registration.
-/

namespace SessionAuth

namespace Service.Request

/-- The request adds no account, or it is a registration, and the account has the username that its
text spells. -/
def AddsOwn (r : Request) (c : Call) : Prop :=
  ∀ n, c = .insertUser n → ∃ registration, r = register registration ∧
    Username.ofText registration.username = .ok n.username

theorem along_addsOwn (r : Request) :
    r.operation.Along (fun _ c => r.AddsOwn c) (fun _ _ => True) [] := by
  by_cases hr : ∃ registration, r = register registration
  · obtain ⟨registration, rfl⟩ := hr
    refine along_register_of (fun _ c hfree n hc => ?_) fun _ n hspelt m hm => ?_
    · subst hc
      exact hfree.elim
    · obtain rfl := Call.insertUser.inj hm
      exact ⟨registration, rfl, hspelt⟩
  · -- No other request adds an account at all.
    have hconduct : ∀ past c, r.Conduct past c → r.AddsOwn c := by
      rintro past c hconduct n rfl
      exact absurd hconduct.1 hr
    exact ⟨((ends_operation r).flow.mono_safe hconduct).mono fun _ _ _ _ _ => trivial⟩

end Service.Request

namespace Concurrent

open Service

variable {faults : Bool} {w₀ w w' : World}

/-- Some registration has asked for an account under the username. -/
def World.Registers (w : World) (name : Username) : Prop :=
  ∃ (i : Nat) (t : Thread) (registration : Registration), w.threads[i]? = some t ∧
    t.request = .register registration ∧ Username.ofText registration.username = .ok name

theorem World.Registers.step {name : Username} (h : w.Registers name) (hstep : Step faults w w') :
    w'.Registers name := by
  obtain ⟨i, t, registration, ht, hrequest, hspelt⟩ := h
  obtain ⟨t', ht', hgrows⟩ := step_grows hstep ht
  exact ⟨i, t', registration, ht', hgrows.request.trans hrequest, hspelt⟩

/-- **Every row was there before under the same username, or a registration has asked for it.** -/
theorem row_of_run (hfresh : w₀.Fresh) (hrun : Run faults w₀ w) {u : User}
    (hu : u ∈ w.system.users.rows) :
    (∃ v ∈ w₀.system.users.rows, v.id = u.id ∧ v.username = u.username) ∨
      w.Registers u.username := by
  induction hrun generalizing u with
  | refl => exact Or.inl ⟨u, hu, rfl, rfl⟩
  | @tail w₁ w₂ hrun hstep ih =>
    have hkept : ∀ v ∈ w₁.system.users.rows, v.id = u.id → v.username = u.username →
        (∃ v ∈ w₀.system.users.rows, v.id = u.id ∧ v.username = u.username) ∨
          w₂.Registers u.username := by
      intro v hv hid hname
      have hearlier := ih hv
      rw [hid, hname] at hearlier
      exact hearlier.imp id fun h => h.step hstep
    rcases step_system hstep with he | hlater | ⟨i, x, a, hexchange, hserve⟩
    · rw [he] at hu
      exact hkept u hu rfl rfl
    · rw [hlater.onlyClocks] at hu
      exact hkept u hu rfl rfl
    · rcases System.serve_row hserve hu with ⟨v, hv, hid, hname⟩ | ⟨n, hcall, hname⟩
      · exact hkept v hv hid hname
      · -- The call that adds the row was made by a request that keeps to its contract.
        obtain ⟨t, ht, hmem⟩ := hexchange.mem_past
        obtain ⟨before, after, hpast⟩ := List.append_of_mem hmem
        have hfollows := follows_of_run Request.along_addsOwn hfresh (hrun.tail hstep) ht
        obtain ⟨registration, hrequest, hspelt⟩ := hfollows.safe before x after hpast n hcall
        exact Or.inr ⟨i, t, registration, ht, hrequest, hname ▸ hspelt⟩

/-- **Usernames and where they come from.** A text spells a username just when, once trimmed, it
keeps to the rule in characters or is dense, and the username is the trimmed text. However requests
overlap, fail and are abandoned, a row was there before under the same id and username, or its
username is what the text of some registration spells. -/
theorem named_as_registered (hfresh : w₀.Fresh) (hrun : Run faults w₀ w) :
    (∀ text, ((∃ name, Username.ofText text = .ok name) ↔
        Username.Proper (Text.trimChars text.toList) ∨
          Username.Dense (Text.trimChars text.toList)) ∧
      ∀ name, Username.ofText text = .ok name → name.text = Text.trim text) ∧
    ∀ u ∈ w.system.users.rows,
      (∃ v ∈ w₀.system.users.rows, v.id = u.id ∧ v.username = u.username) ∨
      ∃ (i : Nat) (t : Thread) (registration : Registration), w.threads[i]? = some t ∧
        t.request = .register registration ∧
        u.username.text = Text.trim registration.username ∧
        (Username.Proper (Text.trimChars registration.username.toList) ∨
          Username.Dense (Text.trimChars registration.username.toList)) := by
  refine ⟨fun text => ⟨Username.exists_ofText_iff, fun _ => Username.text_of_ofText⟩, ?_⟩
  intro u hu
  refine (row_of_run hfresh hrun hu).imp id ?_
  rintro ⟨i, t, registration, ht, hrequest, hspelt⟩
  exact ⟨i, t, registration, ht, hrequest, Username.text_of_ofText hspelt,
    Username.exists_ofText_iff.mp ⟨_, hspelt⟩⟩

end Concurrent

namespace Sample

open Concurrent Service

theorem fresh_vacant : World.Fresh ⟨vacant 0, []⟩ := ⟨rfl, rfl, steady_system.inCalendar⟩

/-- A registration, and the account that it leaves. -/
theorem named_bobby : ∃ w, World.Fresh ⟨vacant 0, []⟩ ∧ Concurrent.Run true ⟨vacant 0, []⟩ w ∧
    w.system.users.rows = [bobby 0] ∧
    ∃ (i : Nat) (t : Thread) (r : Registration), w.threads[i]? = some t ∧
      t.request = .register r ∧ (bobby 0).username.text = Text.trim r.username ∧
      (Username.Proper (Text.trimChars r.username.toList) ∨
        Username.Dense (Text.trimChars r.username.toList)) := by
  have hsettle : (Request.register registration).operation.settle (vacant 0) =
      some (.ok (bobby 0).view, withBobby 0) := settle_register 0
  obtain ⟨past, hrun⟩ := run_request [] hsettle
  refine ⟨_, fresh_vacant, hrun, rfl, ?_⟩
  rcases (named_as_registered fresh_vacant hrun).2 (bobby 0) List.mem_cons_self with
    ⟨v, hv, -⟩ | hnamed
  · exact absurd hv List.not_mem_nil
  · exact hnamed

end Sample

end SessionAuth
