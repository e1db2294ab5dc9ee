import Mathlib.Data.List.TakeWhile
import SessionAuth.Proofs.Json.Members
import SessionAuth.Proofs.Token.Header
import SessionAuth.Proofs.Token.Issue

/-!
# What opens a token

The texts that a key opens, and the claims that they open to, said without the reader: the three
segments of the text, what each of them has to be, and the claims that the check of a payload lets
through.

* `WellSigned`: a text in three segments that is signed with a key and has an object for payload.
* `Admissible`: claims with no container where the check of a payload wants none.
* `open?_eq_some_iff`: the main statement.
* `TokenProvider.accepts_iff`: which texts the provider accepts, and as what.
-/

namespace SessionAuth.Token

/-! ## Segments -/

theorem segmentBytes?_eq_some_iff {cs : List Char} {bytes : List UInt8} :
    segmentBytes? cs = some bytes ↔ cs = segment bytes :=
  Base64.decode?_urlSafe_iff

theorem segmentText?_eq_some_iff {cs : List Char} {s : String} :
    segmentText? cs = some s ↔ cs = segment (Hash.utf8 s) := by
  simp only [segmentText?, Option.bind_eq_some_iff, segmentBytes?_eq_some_iff,
    Hash.ofUtf8?_eq_some_iff]
  constructor
  · rintro ⟨bytes, rfl, rfl⟩
    rfl
  · rintro rfl
    exact ⟨_, rfl, rfl⟩

/-! ## Splitting -/

theorem splitLastDot?_eq_some_iff {cs before after : List Char} :
    splitLastDot? cs = some (before, after) ↔ cs = before ++ '.' :: after ∧ '.' ∉ after := by
  constructor
  · intro h
    have hjoin := List.takeWhile_append_dropWhile (p := (· != '.')) (l := cs.reverse)
    have htake : ∀ c ∈ cs.reverse.takeWhile (· != '.'), c ≠ '.' := fun c hc => by
      simpa using List.mem_takeWhile_imp hc
    simp only [splitLastDot?] at h
    split at h
    · rename_i dot rest hdrop
      have hdot : dot = '.' := by
        have hhead := List.head?_dropWhile_not (· != '.') cs.reverse
        rw [hdrop] at hhead
        simpa using hhead
      subst hdot
      obtain ⟨rfl, rfl⟩ := Prod.mk.inj (Option.some.inj h)
      rw [hdrop] at hjoin
      refine ⟨?_, fun hmem => htake _ (List.mem_reverse.mp hmem) rfl⟩
      have hcs := congrArg List.reverse hjoin
      simpa using hcs.symm
    · cases h
  · rintro ⟨rfl, hafter⟩
    exact splitLastDot?_append before hafter

/-- Three segments with dots between them. -/
def dotted (header payload sign : List Char) : String :=
  String.ofList ((header ++ '.' :: payload) ++ '.' :: sign)

theorem splitToken?_eq_some_iff {token : String} {header payload sign : List Char} :
    splitToken? token.toList = some (header, payload, sign) ↔
      token = dotted header payload sign ∧ '.' ∉ payload ∧ '.' ∉ sign := by
  simp only [splitToken?, Option.bind_eq_bind, Option.bind_eq_some_iff, Option.pure_def,
    Option.some.injEq, Prod.mk.injEq]
  constructor
  · rintro ⟨⟨message, s⟩, hmessage, ⟨h, p⟩, hheader, rfl, rfl, rfl⟩
    obtain ⟨htoken, hs⟩ := splitLastDot?_eq_some_iff.mp hmessage
    obtain ⟨rfl, hp⟩ := splitLastDot?_eq_some_iff.mp hheader
    exact ⟨by rw [dotted, ← htoken, String.ofList_toList], hp, hs⟩
  · rintro ⟨rfl, hp, hs⟩
    rw [dotted, String.toList_ofList]
    exact ⟨_, splitLastDot?_append _ hs, _, splitLastDot?_append _ hp, rfl, rfl, rfl⟩

/-! ## Payloads -/

/-- Claims with no container where the check of a payload wants none: the subject is no container,
and the start of validity is none that holds something. -/
structure Admissible (claims : Claims) : Prop where
  subject : ∀ v, Json.Fields.get? claims Claims.subjectKey = some v → isContainer v = false
  start : ∀ v, Json.Fields.get? claims "nbf" = some v → isFilled v = false

/-- No registered claim is written twice in the text of a payload. -/
def NoneRepeats (text : String) : Prop :=
  ∀ members, Json.HasMembers text.toList members →
    ∀ key ∈ registered, (members.filter (·.1 == key)).length ≤ 1

/-- The members that are read are those that the text has, so they repeat together. -/
theorem noneRepeats_iff {text : String} {entries : List (String × Json)}
    (h : Json.entries? text = some entries) :
    NoneRepeats text ↔ ∀ key ∈ registered, (entries.filter (·.1 == key)).length ≤ 1 := by
  obtain ⟨members, hmembers, hentries⟩ := Json.entries?_eq_some_iff.mp h
  have hlength : ∀ key, (entries.filter (·.1 == key)).length =
      (members.filter (·.1 == key)).length := by
    intro key
    rw [← Json.count_keys, ← Json.count_keys, (Json.memberOf_iff.mp hentries).1]
  simp only [hlength]
  constructor
  · exact fun hnone => hnone members hmembers
  · intro hall members' hmembers'
    exact hmembers.unique hmembers' ▸ hall

theorem placeable_subject (v : Json) :
    placeable (Claims.subjectKey, v) = true ↔ isContainer v = false := by
  simp [placeable]

theorem placeable_time {key : String} (hkey : key = Claims.expiryKey ∨ key = "nbf") (v : Json) :
    placeable (key, v) = true ↔ isFilled v = false := by
  have hne : key ≠ Claims.subjectKey := by
    rcases hkey with rfl | rfl <;> decide
  simp [placeable, hne, hkey]

theorem registered_of_not_placeable {m : String × Json} (h : placeable m ≠ true) :
    m.1 ∈ registered := by
  unfold placeable at h
  split at h
  · rename_i hkey
    simp [registered, hkey]
  · split at h
    · rename_i hkey
      rcases hkey with hkey | hkey <;> simp [registered, hkey]
    · exact absurd rfl h

theorem forall_placeable_iff {claims : Claims} (h : Json.Fields.Sorted claims) :
    (∀ m ∈ claims, placeable m = true) ↔
      Admissible claims ∧
        ∀ v, Json.Fields.get? claims Claims.expiryKey = some v → isFilled v = false := by
  constructor
  · intro hall
    have hget : ∀ {key : String} {v : Json}, Json.Fields.get? claims key = some v →
        placeable (key, v) = true := fun hv => hall _ (Json.Fields.mem_of_get? hv)
    exact ⟨⟨fun v hv => (placeable_subject v).mp (hget hv),
      fun v hv => (placeable_time (Or.inr rfl) v).mp (hget hv)⟩,
      fun v hv => (placeable_time (Or.inl rfl) v).mp (hget hv)⟩
  · rintro ⟨⟨hsubject, hstart⟩, hexpiry⟩ ⟨key, v⟩ hm
    have hget := (Json.Fields.get?_iff_mem_of_sorted h).mpr hm
    by_cases hs : key = Claims.subjectKey
    · subst hs
      exact (placeable_subject v).mpr (hsubject v hget)
    · by_cases ht : key = Claims.expiryKey ∨ key = "nbf"
      · refine (placeable_time ht v).mpr ?_
        rcases ht with rfl | rfl
        · exact hexpiry v hget
        · exact hstart v hget
      · simp [placeable, hs, ht]

/-- The members of a payload are claims exactly when none of them repeats and those that count can
stand where they stand. -/
theorem wellFormed_iff {entries : List (String × Json)} :
    wellFormed entries = true ↔
      (∀ key ∈ registered, (entries.filter (·.1 == key)).length ≤ 1) ∧
        ∀ m ∈ Json.Fields.ofList entries, placeable m = true := by
  simp only [wellFormed, Bool.and_eq_true, List.all_eq_true, decide_eq_true_eq]
  refine and_congr_right fun hsingle => ?_
  constructor
  · exact fun hall m hm => hall m (Json.Fields.mem_ofList hm)
  · intro hall m hm
    by_contra hnot
    have hget : Json.Fields.get? (Json.Fields.ofList entries) m.1 = some m.2 :=
      Json.Fields.get?_ofList_of_single (hsingle m.1 (registered_of_not_placeable hnot)) hm
    exact hnot (hall m (Json.Fields.mem_of_get? hget))

theorem claimsOf?_eq_some_iff {text : String} {claims : Claims} :
    claimsOf? text = some claims ↔
      Json.Spells text (.object claims) ∧ NoneRepeats text ∧
        ∀ m ∈ claims, placeable m = true := by
  rw [← Json.parse?_eq_some_iff, Json.parse?_eq_object_iff]
  simp only [claimsOf?, Option.bind_eq_bind, Option.bind_eq_some_iff]
  constructor
  · rintro ⟨entries, hentries, h⟩
    split at h
    · rename_i hwell
      obtain ⟨hsingle, hplace⟩ := wellFormed_iff.mp hwell
      obtain rfl := Option.some.inj h
      exact ⟨⟨entries, hentries, rfl⟩, (noneRepeats_iff hentries).mpr hsingle, hplace⟩
    · cases h
  · rintro ⟨⟨entries, hentries, rfl⟩, hnone, hplace⟩
    exact ⟨entries, hentries,
      if_pos (wellFormed_iff.mpr ⟨(noneRepeats_iff hentries).mp hnone, hplace⟩)⟩

/-! ## Opening -/

/-- The three segments of a token and what the first two of them spell. -/
structure Parts where
  header : List Char
  payload : List Char
  signature : List Char
  headerBytes : List UInt8
  payloadText : String

/-- The parts are those of the text: it is split at its last two dots, has a header that names the
algorithm of the service, is signed with the key, and carries the claims. -/
structure Parts.Spell (t : Parts) (key : List UInt8) (token : String) (claims : Claims) :
    Prop where
  split : token = dotted t.header t.payload t.signature
  payload_dot : '.' ∉ t.payload
  signature_dot : '.' ∉ t.signature
  signature_eq : t.signature = Base64.encode Base64.urlSafe
    (Hash.hmacSha256 key (Hash.utf8 (String.ofList (t.header ++ '.' :: t.payload))))
  header_eq : t.header = Base64.encode Base64.urlSafe t.headerBytes
  algorithm : Header.Names t.headerBytes "HS256"
  payload_eq : t.payload = Base64.encode Base64.urlSafe (Hash.utf8 t.payloadText)
  claims : Json.Spells t.payloadText (.object claims)
  single : NoneRepeats t.payloadText

/-- A text in three segments that has a header for the algorithm of the service, is signed with the
key and carries the claims. -/
def WellSigned (key : List UInt8) (token : String) (claims : Claims) : Prop :=
  ∃ t : Parts, t.Spell key token claims

theorem open?_eq_some_iff {key : List UInt8} {token : String} {claims : Claims} :
    open? key token = some claims ↔
      WellSigned key token claims ∧ ∀ m ∈ claims, placeable m = true := by
  simp only [open?, Option.bind_eq_bind, Option.bind_eq_some_iff]
  constructor
  · rintro ⟨⟨header, payload, sign⟩, hsplit, bytes, hbytes, name, hname, h⟩
    obtain ⟨hsplit, hpayload, hsign⟩ := splitToken?_eq_some_iff.mp hsplit
    split at h
    · rename_i hsigned
      obtain ⟨rfl, hsigned⟩ := hsigned
      obtain ⟨text, htext, hclaims⟩ := Option.bind_eq_some_iff.mp h
      obtain ⟨hparse, hsingle, hplace⟩ := claimsOf?_eq_some_iff.mp hclaims
      exact ⟨⟨⟨header, payload, sign, bytes, text⟩, hsplit, hpayload, hsign, hsigned,
        segmentBytes?_eq_some_iff.mp hbytes, Header.algorithm?_eq_some_iff.mp hname,
        segmentText?_eq_some_iff.mp htext, hparse, hsingle⟩, hplace⟩
    · cases h
  · rintro ⟨⟨t, h⟩, hplace⟩
    refine ⟨_, splitToken?_eq_some_iff.mpr ⟨h.split, h.payload_dot, h.signature_dot⟩, _,
      segmentBytes?_eq_some_iff.mpr h.header_eq, _,
      Header.algorithm?_eq_some_iff.mpr h.algorithm, ?_⟩
    rw [if_pos ⟨rfl, h.signature_eq⟩]
    exact Option.bind_eq_some_iff.mpr ⟨_, segmentText?_eq_some_iff.mpr h.payload_eq,
      claimsOf?_eq_some_iff.mpr ⟨h.claims, h.single, hplace⟩⟩

namespace Parts.Spell

variable {t : Parts} {key : List UInt8} {token : String} {claims : Claims}
  {header payload sign : List Char}

/-- The segments of a text that is signed are those that its last two dots part. -/
theorem segments_of_last (h : t.Spell key token claims) (hpayload : '.' ∉ payload)
    (hsign : '.' ∉ sign) (htoken : token = dotted header payload sign) :
    t.header = header ∧ t.payload = payload ∧ t.signature = sign := by
  have hsplit := splitToken?_eq_some_iff.mpr ⟨h.split, h.payload_dot, h.signature_dot⟩
  have hsplit' := splitToken?_eq_some_iff.mpr ⟨htoken, hpayload, hsign⟩
  simpa using hsplit.symm.trans hsplit'

end Parts.Spell

/-- A text carries one set of claims at most. -/
theorem WellSigned.unique {key key' : List UInt8} {token : String} {claims claims' : Claims}
    (h : WellSigned key token claims) (h' : WellSigned key' token claims') : claims = claims' := by
  obtain ⟨t, ht⟩ := h
  obtain ⟨t', ht'⟩ := h'
  obtain ⟨-, hpayload, -⟩ := ht.segments_of_last ht'.payload_dot ht'.signature_dot ht'.split
  have htext : t.payloadText = t'.payloadText := by
    have hread := segmentText?_eq_some_iff.mpr ht.payload_eq
    have hread' := segmentText?_eq_some_iff.mpr ht'.payload_eq
    rw [hpayload] at hread
    exact Option.some.inj (hread.symm.trans hread')
  have hparse := Json.parse?_eq_some_iff.mpr ht.claims
  rw [htext] at hparse
  simpa using hparse.symm.trans (Json.parse?_eq_some_iff.mpr ht'.claims)

theorem WellSigned.sorted {key : List UInt8} {token : String} {claims : Claims}
    (h : WellSigned key token claims) : Json.Fields.Sorted claims := by
  obtain ⟨t, ht⟩ := h
  obtain ⟨entries, -, rfl⟩ :=
    Json.parse?_eq_object_iff.mp (Json.parse?_eq_some_iff.mpr ht.claims)
  exact Json.Fields.sorted_ofList entries

/-- A token that was signed carries the claims that it was signed for, and its header is a usual
one. -/
theorem exists_spell_sign (key : List UInt8) {claims : Claims}
    (h : Json.Printable Json.maxDepth (.object claims)) :
    ∃ t : Parts, t.Spell key (sign key claims) claims ∧ Header.IsUsual t.headerBytes "HS256" := by
  have hsorted : Json.Fields.Sorted claims := by
    cases h with
    | object hs _ => exact hs
  have hsplit := splitToken?_eq_some_iff.mp (splitToken?_sign key claims)
  have hparse : Json.parse? (Json.object claims).print = some (.object claims) := by
    rw [Json.parse?, Json.parse_print h]
    rfl
  have hsingle : NoneRepeats (Json.object claims).print :=
    (noneRepeats_iff (Json.entries?_print h)).mpr fun name _ => length_filter_key_le hsorted name
  exact ⟨⟨_, _, _, Hash.utf8 Header.text, (Json.object claims).print⟩, ⟨hsplit.1, hsplit.2.1,
    hsplit.2.2, rfl, rfl, Header.isUsual_text.names, rfl, Json.parse?_eq_some_iff.mp hparse,
    hsingle⟩, Header.isUsual_text⟩

theorem wellSigned_sign (key : List UInt8) {claims : Claims}
    (h : Json.Printable Json.maxDepth (.object claims)) :
    WellSigned key (sign key claims) claims := by
  obtain ⟨t, ht, -⟩ := exists_spell_sign key h
  exact ⟨t, ht⟩

end SessionAuth.Token

namespace SessionAuth

/-! ## Acceptance -/

/-- The claims state a time of expiry, and it is still to come. -/
def Claims.ExpireAfter (claims : Claims) (now : Int) : Prop :=
  ∃ value time, Json.Fields.get? claims "exp" = some value ∧ timeOf? value = some time ∧ now < time

theorem Claims.isCurrent_iff_expireAfter {claims : Claims} {now : Int} :
    claims.isCurrent now = true ↔ claims.ExpireAfter now := by
  unfold isCurrent expiry? ExpireAfter
  constructor
  · intro h
    split at h
    · rename_i time htime
      obtain ⟨value, hvalue, htime⟩ := Option.bind_eq_some_iff.mp htime
      exact ⟨value, time, hvalue, htime, of_decide_eq_true h⟩
    · cases h
  · rintro ⟨value, time, hvalue, htime, hlt⟩
    have hbind : (Json.Fields.get? claims expiryKey).bind timeOf? = some time :=
      Option.bind_eq_some_iff.mpr ⟨value, hvalue, htime⟩
    rw [hbind]
    exact decide_eq_true hlt

/-- What holds something is no time. -/
theorem Claims.isFilled_of_timeOf? {value : Json} {time : Int} (h : timeOf? value = some time) :
    Token.isFilled value = false := by
  cases value with
  | array items => cases h
  | object fields => cases h
  | _ => rfl

namespace TokenProvider

/-- **The texts that are accepted**, and as what. -/
theorem accepts_iff {p : TokenProvider} {now : Int} {token : String} {claims : Claims} :
    p.verify now token = .ok claims ↔
      Token.WellSigned p.key token claims ∧ Token.Admissible claims ∧ claims.ExpireAfter now := by
  rw [verify_eq_ok_iff, Token.open?_eq_some_iff, Claims.isCurrent_iff_expireAfter, and_assoc]
  refine and_congr_right fun hsigned => ?_
  rw [Token.forall_placeable_iff hsigned.sorted]
  constructor
  · rintro ⟨⟨hadmissible, -⟩, hexpire⟩
    exact ⟨hadmissible, hexpire⟩
  · rintro ⟨hadmissible, value, time, hvalue, htime, hlt⟩
    refine ⟨⟨hadmissible, fun v hv => ?_⟩, value, time, hvalue, htime, hlt⟩
    obtain rfl : value = v := Option.some.inj (hvalue.symm.trans hv)
    exact Claims.isFilled_of_timeOf? htime

end TokenProvider

/-! ## A small provider -/

namespace Specimen

def provider : TokenProvider := ⟨"secret", .ofSeconds 900, .ofSeconds 86400⟩

/-- Claims that expire ten seconds after the start of 1970. -/
def claims (subject : Json) : Claims := [("exp", .int 10), ("sub", subject)]

theorem sorted_claims (subject : Json) : Json.Fields.Sorted (claims subject) :=
  Json.Fields.sorted_pair (by decide)

theorem printable_claims {subject : Json} (h : Json.Printable (Json.maxDepth - 1) subject) :
    Json.Printable Json.maxDepth (.object (claims subject)) := by
  refine Json.Printable.object (sorted_claims subject) fun m hm => ?_
  simp only [claims, List.mem_cons, List.not_mem_nil, or_false] at hm
  rcases hm with rfl | rfl
  · exact .number (Json.readsBack_int (by decide) (by decide))
  · exact h

theorem expireAfter_claims (subject : Json) : (claims subject).ExpireAfter 0 :=
  ⟨.int 10, 10, rfl, rfl, by decide⟩

/-- The token of the provider for the claims with the subject. -/
def token (subject : Json) : String := Token.sign provider.key (claims subject)

theorem wellSigned_token {subject : Json} (h : Json.Printable (Json.maxDepth - 1) subject) :
    Token.WellSigned provider.key (token subject) (claims subject) :=
  Token.wellSigned_sign provider.key (printable_claims h)

theorem admissible_claims {subject : Json} (h : Token.isContainer subject = false) :
    Token.Admissible (claims subject) where
  subject := fun v hv => by
    obtain rfl : subject = v := Option.some.inj hv
    exact h
  start := fun v hv => by cases hv

end Specimen

namespace TokenProvider

end TokenProvider

end SessionAuth
