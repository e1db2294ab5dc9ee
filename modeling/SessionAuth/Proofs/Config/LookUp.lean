import SessionAuth.Config.Basic
import SessionAuth.Proofs.Bind
import SessionAuth.Session.Basic

/-!
# What a configuration is read from

A configuration is usable only if every part of it could be read, and then each part is what its
own reader gave.

* `Config.ReadFrom`: the parts of a configuration and their readers; `Config.readFrom` says that
  each configuration in use has been put together so.
* `Config.seconds_mem_range`: a length of time is a second at least and has 64 bits.
* `Config.ttl`: the lifetime of the tokens of a kind.
-/

namespace SessionAuth

theorem Text.le_of_readNat? {max n : Nat} {s : String} (h : readNat? max s = some n) : n ≤ max :=
  of_decide_eq_true (Option.filter_eq_some_iff.mp h).2

namespace Config

variable {lookup : String → Option String} {config : Config}

theorem of_readSeconds? {text : String} {n : Nat} (h : readSeconds? text = some n) :
    0 < n ∧ n ≤ maxNat64 := by
  obtain ⟨hread, hpos⟩ := Option.filter_eq_some_iff.mp h
  exact ⟨of_decide_eq_true hpos, Text.le_of_readNat? hread⟩

/-- **A length of time is a second at least and has 64 bits** if its default is so. -/
theorem seconds_mem_range {name : String} {default n : Nat}
    (hdefault : 0 < default ∧ default ≤ maxNat64) (h : seconds lookup name default = .ok n) :
    0 < n ∧ n ≤ maxNat64 := by
  rw [seconds] at h
  cases hpresent : present lookup name with
  | none =>
    rw [hpresent] at h
    obtain rfl := Except.ok.inj h
    exact hdefault
  | some text =>
    cases hread : readSeconds? text with
    | none =>
      simp only [hpresent, hread] at h
      cases h
    | some m =>
      simp only [hpresent, hread] at h
      obtain rfl := Except.ok.inj h
      exact of_readSeconds? hread

/-- Each part of a configuration is what its reader gives. -/
structure ReadFrom (lookup : String → Option String) (config : Config) : Prop where
  secret : readSecret lookup = .ok config.secret
  accessTtl : seconds lookup accessTtlName (24 * 60 * 60) = .ok config.accessTtl
  refreshTtl : seconds lookup refreshTtlName (7 * 24 * 60 * 60) = .ok config.refreshTtl
  requestTimeout : seconds lookup timeoutName 30 = .ok config.requestTimeout
  allowedOrigins : config.allowedOrigins =
    ((present lookup originsName).map splitOrigins).getD ["http://localhost:3000"]

theorem readFrom (h : ofLookup lookup = .ok config) : ReadFrom lookup config := by
  unfold ofLookup at h
  obtain ⟨secret, hsecret, h⟩ := ok_of_bind h
  obtain ⟨access, haccess, h⟩ := ok_of_bind h
  obtain ⟨refresh, hrefresh, h⟩ := ok_of_bind h
  obtain ⟨timeout, htimeout, h⟩ := ok_of_bind h
  obtain rfl := Except.ok.inj h
  exact ⟨hsecret, haccess, hrefresh, htimeout, rfl⟩

/-- The lifetime of the tokens of a kind, in seconds. -/
def ttl (config : Config) : TokenKind → Nat
  | .access => config.accessTtl
  | .refresh => config.refreshTtl

theorem ttl_mem_range (h : ofLookup lookup = .ok config) (kind : TokenKind) :
    0 < config.ttl kind ∧ config.ttl kind ≤ maxNat64 := by
  cases kind with
  | access => exact seconds_mem_range (by decide) (readFrom h).accessTtl
  | refresh => exact seconds_mem_range (by decide) (readFrom h).refreshTtl

end Config

end SessionAuth
