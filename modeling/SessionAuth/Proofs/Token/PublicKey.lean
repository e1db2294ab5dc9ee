import SessionAuth.Proofs.Json.Shapes
import SessionAuth.Token.PublicKey

/-!
# The grammar of public keys

What a public key looks like in the header of a token, said without the reader of keys.

* `AtMostOnce`, `Once`: a member that may be missing, and one that may not.
* `IsKey`: the text of a key.
* `takes_read`: the reader of keys takes these texts.
-/

namespace SessionAuth.Token.PublicKey

open Json (IsText IsList IsNamed IsObject OrNull Passes SpellsKey Takes nullText)

/-! ## Members -/

/-- The member stands once, and its value has the property. -/
def Once (members : List Member) (name : String) (P : List Char → Prop) : Prop :=
  ∃ v, members.filter (·.1 == name) = [(name, v)] ∧ P v

/-- The member is missing, or it stands once and its value has the property. -/
def AtMostOnce (members : List Member) (name : String) (P : List Char → Prop) : Prop :=
  members.filter (·.1 == name) = [] ∨ Once members name P

/-- The text is one that the grammar has for some value. -/
def Matches {α : Type} (G : List Char → α → Prop) (v : List Char) : Prop := ∃ a, G v a

/-- The text is one of the names, or an object with one of them for its one key. -/
def IsOneOf (names : List String) (U : List Char → Prop) (v : List Char) (s : String) : Prop :=
  s ∈ names ∧ IsNamed U v s

/-- The members that belong to a kind of keys. -/
inductive IsKind (members : List Member) : Prop
  | ec (kty : Once members "kty" (Matches (IsOneOf ["EC"] (· = nullText))))
      (crv : Once members "crv" (Matches (IsOneOf curves (· = nullText))))
      (x : Once members "x" (Matches IsText)) (y : Once members "y" (Matches IsText))
  | rsa (kty : Once members "kty" (Matches (IsOneOf ["RSA"] (· = nullText))))
      (n : Once members "n" (Matches IsText)) (e : Once members "e" (Matches IsText))
  | oct (kty : Once members "kty" (Matches (IsOneOf ["oct"] (· = nullText))))
      (k : Once members "k" (Matches IsText))
  | okp (kty : Once members "kty" (Matches (IsOneOf ["OKP"] (· = nullText))))
      (crv : Once members "crv" (Matches (IsOneOf curves (· = nullText))))
      (x : Once members "x" (Matches IsText))

/-- The members of a key. -/
structure IsKeyOf (members : List Member) : Prop where
  text : ∀ name ∈ ["use", "kid", "x5u", "x5t", "x5t#S256"],
    AtMostOnce members name (Matches (OrNull IsText))
  texts : ∀ name ∈ ["key_ops", "x5c"], AtMostOnce members name (Matches (OrNull (IsList IsText)))
  algorithm : AtMostOnce members "alg" (Matches (OrNull
    (IsOneOf keyAlgorithms fun v => v = nullText ∨ IsObject SpellsKey [] v)))
  kind : IsKind members

/-- The text writes a value with at most 125 containers around any part of it. -/
def IsValue (v : List Char) : Prop := ∃ x, Json.Writes (Json.maxDepth - 2) v x

theorem IsValue.passes {v : List Char} (h : IsValue v) : Passes v := by
  obtain ⟨x, hx⟩ := h
  exact hx.passes

/-- The text of a key. -/
def IsKey (v : List Char) : Prop :=
  ∃ members, IsObject SpellsKey members v ∧
    (∀ m ∈ members, IsValue m.2) ∧ IsKeyOf members

/-! ## What a member may be -/

theorem filter_name {members : List Member} {name : String} {m : Member}
    (h : m ∈ members.filter (·.1 == name)) : m.1 = name := by
  simpa using (List.mem_filter.mp h).2

theorem fits_false_iff {a : Attribute} {members : List Member} :
    a.fits false members = true ↔ Once members a.name fun v => a.accepts v = true := by
  unfold Attribute.fits Once
  constructor
  · intro h
    split at h
    · cases h
    · rename_i m hm
      have hname : m.1 = a.name := filter_name (hm ▸ List.mem_singleton_self m)
      exact ⟨m.2, by rw [hm, ← hname], h⟩
    · cases h
  · rintro ⟨v, hv, haccepts⟩
    rw [hv]
    exact haccepts

theorem fits_true_iff {a : Attribute} {members : List Member} :
    a.fits true members = true ↔ AtMostOnce members a.name fun v => a.accepts v = true := by
  rw [AtMostOnce, ← fits_false_iff]
  unfold Attribute.fits
  cases members.filter (·.1 == a.name) with
  | nil => simp
  | cons m rest => cases rest <;> simp

/-- A text that could be passed over is taken as a whole. -/
theorem accepts_known_iff {α : Type} {reader : Json.Reader α} {G : List Char → α → Prop}
    (h : Takes reader G) (hpasses : ∀ {v a}, G v a → Passes v) (name : String) {v : List Char}
    (hv : Passes v) : (known name reader).accepts v = true ↔ Matches G v := by
  have hdecode : (known name reader).accepts v = true ↔
      ∃ a, Json.decode reader (String.ofList v) = .ok a := by
    simp only [known, Option.isSome_iff_exists, Json.toOption_eq_some_iff]
  simp only [hdecode, h.decode_iff, String.toList_ofList, Matches]
  constructor
  · rintro ⟨a, b, v', b', hb, hv', hb', hcs⟩
    -- what is taken begins where the text does, and it ends there too
    have hskip := congrArg Json.skipBlank hcs
    rw [(hpasses hv').starts.skipBlank_eq hb, ← List.append_nil v,
      Json.skipBlank_starts hv.starts] at hskip
    obtain ⟨rfl, -⟩ := hv.unique (hpasses hv') Json.ends_nil (Json.ends_blanks hb') hskip
    exact ⟨a, hv'⟩
  · rintro ⟨a, ha⟩
    exact ⟨a, [], v, [], Json.blanks_nil, ha, Json.blanks_nil, by simp⟩

theorem Once.of_iff {members : List Member} {name : String} {P Q : List Char → Prop}
    (h : ∀ m ∈ members, P m.2 ↔ Q m.2) : Once members name P ↔ Once members name Q := by
  refine exists_congr fun v => and_congr_right fun hv => ?_
  have hmem : (name, v) ∈ members.filter (·.1 == name) := hv ▸ List.mem_singleton_self _
  exact h _ (List.mem_filter.mp hmem).1

theorem AtMostOnce.of_iff {members : List Member} {name : String} {P Q : List Char → Prop}
    (h : ∀ m ∈ members, P m.2 ↔ Q m.2) : AtMostOnce members name P ↔ AtMostOnce members name Q :=
  or_congr_right (Once.of_iff h)

theorem fits_false_known_iff {α : Type} {reader : Json.Reader α} {G : List Char → α → Prop}
    (h : Takes reader G) (hpasses : ∀ {v a}, G v a → Passes v) (name : String)
    {members : List Member} (hmembers : ∀ m ∈ members, Passes m.2) :
    (known name reader).fits false members = true ↔ Once members name (Matches G) :=
  fits_false_iff.trans (Once.of_iff fun m hm => accepts_known_iff h hpasses name (hmembers m hm))

theorem fits_true_known_iff {α : Type} {reader : Json.Reader α} {G : List Char → α → Prop}
    (h : Takes reader G) (hpasses : ∀ {v a}, G v a → Passes v) (name : String)
    {members : List Member} (hmembers : ∀ m ∈ members, Passes m.2) :
    (known name reader).fits true members = true ↔ AtMostOnce members name (Matches G) :=
  fits_true_iff.trans
    (AtMostOnce.of_iff fun m hm => accepts_known_iff h hpasses name (hmembers m hm))

/-! ## The attributes of keys -/

theorem among_eq_some_iff {names : List String} {s s' : String} :
    among names s = some s' ↔ s ∈ names ∧ s = s' := by
  unfold among
  split
  · rename_i h
    simp [List.contains_iff_mem.mp h]
  · rename_i h
    simp [mt List.contains_iff_mem.mpr h]

theorem takes_oneOf {unit : Json.Reader Unit} {U : List Char → Prop}
    (h : Takes unit fun v _ => U v) (names : List String) :
    Takes (Json.readNameOver unit (among names)) (IsOneOf names U) := by
  refine (Json.takes_readNameOver h (among names)).of_iff fun v s => ?_
  simp only [among_eq_some_iff, IsOneOf]
  constructor
  · rintro ⟨s, ⟨hs, rfl⟩, hv⟩
    exact ⟨hs, hv⟩
  · rintro ⟨hs, hv⟩
    exact ⟨s, ⟨hs, rfl⟩, hv⟩

theorem IsOneOf.passes {names : List String} {U : List Char → Prop}
    (hU : ∀ {u}, U u → Passes u) {v : List Char} {s : String} (h : IsOneOf names U v s) :
    Passes v :=
  h.2.passes hU

theorem IsOneOf.opens {names : List String} {U : List Char → Prop} {v : List Char} {s : String}
    (h : IsOneOf names U v s) : Json.Opens v :=
  h.2.opens

theorem passes_of_eq_nullText {u : List Char} (h : u = nullText) : Passes u :=
  h ▸ Json.passes_nullText

section Attributes

variable {members : List Member} (hmembers : ∀ m ∈ members, Passes m.2)
include hmembers

theorem fits_text_iff (name : String) :
    (text name).fits false members = true ↔ Once members name (Matches IsText) :=
  fits_false_known_iff Json.takes_readText IsText.passes name hmembers

theorem fits_oneOf_iff (name : String) (names : List String) :
    (oneOf name names).fits false members = true ↔
      Once members name (Matches (IsOneOf names (· = nullText))) :=
  fits_false_known_iff (takes_oneOf Json.takes_readNull names)
    (fun h => h.passes passes_of_eq_nullText) name hmembers

theorem fits_optional_text_iff (name : String) :
    (optional name Json.readText).fits true members = true ↔
      AtMostOnce members name (Matches (OrNull IsText)) :=
  fits_true_known_iff (Json.takes_readOptional Json.takes_readText IsText.opens)
    (fun h => h.passes IsText.passes) name hmembers

theorem fits_optional_texts_iff (name : String) :
    (optional name (Json.readList Json.readText)).fits true members = true ↔
      AtMostOnce members name (Matches (OrNull (IsList IsText))) :=
  fits_true_known_iff
    (Json.takes_readOptional (Json.takes_readList Json.takes_readText IsText.opens) IsList.opens)
    (fun h => h.passes fun h => h.passes IsText.passes) name hmembers

theorem fits_optional_nameOver_iff (name : String) (names : List String) :
    (optional name (Json.readNameOver Json.readNothing (among names))).fits true members = true ↔
      AtMostOnce members name
        (Matches (OrNull (IsOneOf names fun v => v = nullText ∨ IsObject SpellsKey [] v))) := by
  refine fits_true_known_iff
    (Json.takes_readOptional (takes_oneOf Json.takes_readNothing names) IsOneOf.opens)
    (fun h => h.passes fun h => h.passes ?_) name hmembers
  rintro u (rfl | hu)
  · exact Json.passes_nullText
  · exact hu.passes fun m hm => absurd hm List.not_mem_nil

theorem isKey_iff : isKey members = true ↔ IsKeyOf members := by
  have htext := fits_text_iff hmembers
  have honeOf := fits_oneOf_iff hmembers
  have hmaybe := fits_optional_text_iff hmembers
  have hmaybes := fits_optional_texts_iff hmembers
  have hnameOver := fits_optional_nameOver_iff hmembers
  simp only [isKey, common, kinds, List.all_cons, List.all_nil, List.any_cons, List.any_nil,
    Bool.and_eq_true, Bool.or_eq_true, Bool.and_true, Bool.or_false, htext, honeOf, hmaybe, hmaybes,
    hnameOver]
  constructor
  · rintro ⟨⟨huse, hops, halg, hkid, hx5u, hx5c, hx5t, hx5t256⟩, hkind⟩
    refine ⟨?_, ?_, halg, ?_⟩
    · simp only [List.forall_mem_cons]
      tauto
    · simp only [List.forall_mem_cons]
      tauto
    · rcases hkind with ⟨hkty, hcrv, hx, hy⟩ | ⟨hkty, hn, he⟩ | ⟨hkty, hk⟩ | ⟨hkty, hcrv, hx⟩
      · exact .ec hkty hcrv hx hy
      · exact .rsa hkty hn he
      · exact .oct hkty hk
      · exact .okp hkty hcrv hx
  · rintro ⟨hmaybe, hmaybes, halg, hkind⟩
    simp only [List.forall_mem_cons] at hmaybe hmaybes
    refine ⟨by tauto, ?_⟩
    cases hkind with
    | ec hkty hcrv hx hy => exact Or.inl ⟨hkty, hcrv, hx, hy⟩
    | rsa hkty hn he => exact Or.inr (Or.inl ⟨hkty, hn, he⟩)
    | oct hkty hk => exact Or.inr (Or.inr (Or.inl ⟨hkty, hk⟩))
    | okp hkty hcrv hx => exact Or.inr (Or.inr (Or.inr ⟨hkty, hcrv, hx⟩))

end Attributes

/-! ## Reading -/

/-- Members whose values are kept as they are written are the members themselves. -/
theorem forall₂_memberOf_self_iff {P : List Char → Prop} {members entries : List Member} :
    List.Forall₂ (Json.MemberOf fun v s => P v ∧ s = v) members entries ↔
      members = entries ∧ ∀ m ∈ members, P m.2 := by
  induction members generalizing entries with
  | nil => simp
  | cons m members ih =>
    cases entries with
    | nil => simp
    | cons e entries =>
      simp only [List.forall₂_cons, ih, Json.MemberOf, List.cons.injEq, List.forall_mem_cons,
        Prod.ext_iff]
      tauto

/-- **A key is read from the texts of keys.** -/
theorem takes_read : Takes read fun v _ => IsKey v := by
  have hvalue := Json.takes_readSpan (Json.takes_readValue (Json.maxDepth - 2))
    fun h => h.passes.starts
  have hentries := Json.takes_readEntriesWith hvalue
  constructor
  · intro cs a rest hread
    obtain ⟨⟨entries, after⟩, hmembers, hkey⟩ := ok_of_bind hread
    obtain ⟨b, v, hb, ⟨members, hv, hforall⟩, hcs⟩ := hentries.sound hmembers
    obtain ⟨rfl, hwrites⟩ := (forall₂_memberOf_self_iff (P := IsValue)).mp hforall
    dsimp only at hkey
    split at hkey
    · rename_i hisKey
      obtain ⟨rfl, rfl⟩ := Prod.mk.inj (Except.ok.inj hkey)
      have hpasses : ∀ m ∈ members, Passes m.2 := fun m hm => (hwrites m hm).passes
      exact ⟨b, v, hb, ⟨members, hv, hwrites, (isKey_iff hpasses).mp hisKey⟩, hcs⟩
    · cases hkey
  · rintro b v ⟨⟩ rest hb ⟨members, hv, hwrites, hkey⟩ hrest
    have hself := forall₂_memberOf_self_iff.mpr ⟨rfl, hwrites⟩
    have hread := hentries.complete hb ⟨members, hv, hself⟩ hrest
    have hpasses : ∀ m ∈ members, Passes m.2 := fun m hm => (hwrites m hm).passes
    rw [read]
    simp only [hread, bind, Except.bind, (isKey_iff hpasses).mpr hkey, if_true]

theorem IsKey.passes {v : List Char} (h : IsKey v) : Passes v := by
  obtain ⟨members, hv, hwrites, -⟩ := h
  exact hv.passes fun m hm => (hwrites m hm).passes

theorem IsKey.opens {v : List Char} (h : IsKey v) : Json.Opens v := by
  obtain ⟨members, hv, -⟩ := h
  exact hv.opens

end SessionAuth.Token.PublicKey
