import Mathlib.Data.List.Basic
import SessionAuth.Proofs.Text.Trim
import SessionAuth.Text.LowerCase

/-!
# Lower-casing twice

No lower-case form has another lower-case form, so lower-casing a text again leaves it as it is.
White space comes of white space only, so a trimmed text stays trimmed.

* `CaseShift.Lands`: where the code points of a shift come to lie; `CaseShift.lands` checks this for
  the whole table.
* `IsLower`: a character that is its own lower-case form; `isLower_of_mem_lowerFrom` finds only
  such characters in what has been lower-cased.
* `lowerCase_trim_normal`: trimming and lower-casing a text twice is doing it once.
-/

namespace SessionAuth.Text

/-! ## The table of shifts -/

namespace CaseShift

/-- Where the shift moves a code point to. -/
def image (s : CaseShift) (n : Nat) : Nat := (n + s.offset).toNat

/-- The shift moves no code point to the range. -/
def avoids (s : CaseShift) (range : Nat × Nat) : Bool :=
  (s.image s.last).blt range.1 || range.2.blt (s.image s.first)

/-- The shift moves no code point to where `t` starts from: not to its range, or between the code
points of its range. -/
def misses (s t : CaseShift) : Bool :=
  s.avoids (t.first, t.last)
    || s.step == 2 && t.step == 2 && (s.image s.first + t.first) % 2 == 1
    || s.first == s.last && !t.covers (s.image s.first)

/-- The shift moves code points to characters, none of which is white space, a dotted capital I or
the start of a shift. -/
def landsWell (s : CaseShift) : Bool :=
  0 ≤ s.first + s.offset && s.image s.last < 0x110000 && s.avoids (0xD800, 0xDFFF)
    && s.avoids (0x130, 0x130) && blankSet.ranges.all s.avoids && caseShifts.all s.misses

theorem covers_iff {s : CaseShift} {n : Nat} :
    s.covers n = true ↔ s.first ≤ n ∧ n ≤ s.last ∧ (n - s.first) % s.step = 0 := by
  simp [covers, and_assoc]

end CaseShift

theorem landsWell_caseShifts : caseShifts.all CaseShift.landsWell = true := by decide +kernel

namespace CaseShift

variable {s t : CaseShift} {n : Nat}

/-- The parts of that check. -/
structure Lands (s : CaseShift) : Prop where
  nonneg : 0 ≤ s.first + s.offset
  below : s.image s.last < 0x110000
  surrogates : s.avoids (0xD800, 0xDFFF) = true
  dotted : s.avoids (0x130, 0x130) = true
  blank : ∀ range ∈ blankSet.ranges, s.avoids range = true
  shifts : ∀ t ∈ caseShifts, s.misses t = true

theorem lands (hs : s ∈ caseShifts) : s.Lands := by
  have hcheck : s.landsWell = true := List.all_eq_true.mp landsWell_caseShifts s hs
  simp only [landsWell, Bool.and_eq_true, decide_eq_true_eq, List.all_eq_true] at hcheck
  obtain ⟨⟨⟨⟨⟨hnonneg, hbelow⟩, hsurrogates⟩, hdotted⟩, hblank⟩, hshifts⟩ := hcheck
  exact ⟨hnonneg, hbelow, hsurrogates, hdotted, hblank, hshifts⟩

/-- A shift keeps the order. -/
theorem image_mono {m : Nat} (h : m ≤ n) : s.image m ≤ s.image n := by
  unfold image
  omega

theorem image_avoids (hn : s.covers n = true) {range : Nat × Nat}
    (h : s.avoids range = true) : ¬ (range.1 ≤ s.image n ∧ s.image n ≤ range.2) := by
  obtain ⟨hfirst, hlast, -⟩ := covers_iff.mp hn
  have hlow : s.image s.first ≤ s.image n := image_mono hfirst
  have hhigh : s.image n ≤ s.image s.last := image_mono hlast
  simp only [avoids, Bool.or_eq_true, Nat.blt_eq] at h
  omega

theorem covers_image (hs : s ∈ caseShifts) (hn : s.covers n = true) (h : s.misses t = true) :
    t.covers (s.image n) = false := by
  rw [Bool.eq_false_iff]
  intro hcovers
  obtain ⟨hfirst, hlast, hstep⟩ := covers_iff.mp hcovers
  simp only [misses, Bool.or_eq_true, Bool.and_eq_true, beq_iff_eq, Bool.not_eq_true'] at h
  rcases h with (hrange | ⟨⟨hs2, ht2⟩, hodd⟩) | ⟨hsingle, hfree⟩
  · exact image_avoids hn hrange ⟨hfirst, hlast⟩
  · -- Both shifts take every other code point, and the image of the first one is in between.
    have hnonneg := (lands hs).nonneg
    obtain ⟨hfirst', -, hstep'⟩ := covers_iff.mp hn
    rw [hs2] at hstep'
    rw [ht2] at hstep
    unfold image at hodd hfirst hstep
    omega
  · obtain ⟨hfirst', hlast', -⟩ := covers_iff.mp hn
    have hone : n = s.first := by omega
    rw [hone] at hcovers
    exact absurd (hfree.symm.trans hcovers) (by simp)

end CaseShift

/-! ## Characters in lower case -/

/-- A character is in lower case already, or a shift gives its lower-case form. -/
theorem simpleLower_cases (c : Char) :
    simpleLower c = c ∨
      ∃ s ∈ caseShifts, s.covers c.toNat = true ∧ (simpleLower c).toNat = s.image c.toNat := by
  cases hfind : caseShifts.find? fun s => s.covers c.toNat with
  | none =>
    left
    rw [simpleLower, hfind]
  | some s =>
    right
    have hs : s ∈ caseShifts := List.mem_of_find?_eq_some hfind
    have hc : s.covers c.toNat = true :=
      List.find?_some (p := fun s : CaseShift => s.covers c.toNat) hfind
    refine ⟨s, hs, hc, ?_⟩
    have hbelow := (CaseShift.lands hs).below
    have hgap := CaseShift.image_avoids hc (CaseShift.lands hs).surrogates
    have hle := CaseShift.image_mono (s := s) (CaseShift.covers_iff.mp hc).2.1
    have hvalid : (s.image c.toNat).isValidChar := by
      unfold Nat.isValidChar
      omega
    have hlower : simpleLower c = Char.ofNat (s.image c.toNat) := by
      rw [simpleLower, hfind]
      rfl
    rw [hlower, Char.ofNat, dif_pos hvalid]
    rfl

/-- The character has no other lower-case form. -/
def IsLower (c : Char) : Prop := simpleLower c = c ∧ c ≠ 'İ'

theorem isLower_simpleLower {c : Char} (hc : c ≠ 'İ') : IsLower (simpleLower c) := by
  rcases simpleLower_cases c with hself | ⟨s, hs, hcovers, himage⟩
  · rw [hself]
    exact ⟨hself, hc⟩
  · have hlands := CaseShift.lands hs
    constructor
    · rcases simpleLower_cases (simpleLower c) with hself | ⟨t, ht, htwice, -⟩
      · exact hself
      · rw [himage, CaseShift.covers_image hs hcovers (hlands.shifts t ht)] at htwice
        exact absurd htwice (by simp)
    · intro he
      apply CaseShift.image_avoids hcovers hlands.dotted
      rw [← himage, he]
      decide

theorem isBlank_simpleLower {c : Char} (hc : isBlank c = false) :
    isBlank (simpleLower c) = false := by
  rcases simpleLower_cases c with hself | ⟨s, hs, hcovers, himage⟩
  · rwa [hself]
  · rw [Bool.eq_false_iff]
    intro h
    obtain ⟨range, hrange, hin⟩ := CharSet.contains_iff.mp h
    rw [himage] at hin
    exact CaseShift.image_avoids hcovers ((CaseShift.lands hs).blank range hrange) hin

/-! ## Texts in lower case -/

/-- What a character of a text becomes. -/
def lowerAt (before : List Char) (c : Char) (after : List Char) : List Char :=
  if c = 'Σ' then [if endsWord before after then 'ς' else 'σ'] else lowerChar c

theorem lowerFrom_cons (before : List Char) (c : Char) (after : List Char) :
    lowerFrom before (c :: after) = lowerAt before c after ++ lowerFrom (c :: before) after := rfl

theorem lowerAt_ne_nil (before : List Char) (c : Char) (after : List Char) :
    lowerAt before c after ≠ [] := by
  unfold lowerAt lowerChar
  split
  · simp
  · split <;> simp

/-- The characters that come of a sigma or of a dotted capital I. -/
def specialForms : List Char := ['ς', 'σ', 'i', '\u0307']

/-- They are in lower case themselves, and none of them is white space. -/
theorem specialForms_check :
    specialForms.all (fun c => simpleLower c == c && c != 'İ' && !isBlank c) = true := by
  decide +kernel

theorem of_mem_specialForms {c : Char} (hc : c ∈ specialForms) :
    IsLower c ∧ isBlank c = false := by
  have hcheck := List.all_eq_true.mp specialForms_check c hc
  simp only [Bool.and_eq_true, beq_iff_eq, bne_iff_ne, Bool.not_eq_true'] at hcheck
  exact hcheck

theorem lowerAt_cases {before after : List Char} {c d : Char} (hd : d ∈ lowerAt before c after) :
    d ∈ specialForms ∨ c ≠ 'İ' ∧ d = simpleLower c := by
  unfold lowerAt lowerChar at hd
  split at hd
  · left
    split at hd
    · simp_all [specialForms]
    · simp_all [specialForms]
  · split at hd
    · left
      simp_all [specialForms]
    · rename_i hc
      exact Or.inr ⟨hc, List.mem_singleton.mp hd⟩

theorem isLower_of_mem_lowerAt {before after : List Char} {c d : Char}
    (hd : d ∈ lowerAt before c after) : IsLower d := by
  rcases lowerAt_cases hd with hd | ⟨hc, rfl⟩
  · exact (of_mem_specialForms hd).1
  · exact isLower_simpleLower hc

theorem isBlank_of_mem_lowerAt {before after : List Char} {c d : Char} (hc : isBlank c = false)
    (hd : d ∈ lowerAt before c after) : isBlank d = false := by
  rcases lowerAt_cases hd with hd | ⟨-, rfl⟩
  · exact (of_mem_specialForms hd).2
  · exact isBlank_simpleLower hc

theorem isLower_of_mem_lowerFrom {before cs : List Char} {d : Char}
    (hd : d ∈ lowerFrom before cs) : IsLower d := by
  induction cs generalizing before with
  | nil => exact absurd hd List.not_mem_nil
  | cons c after ih =>
    rw [lowerFrom_cons] at hd
    rcases List.mem_append.mp hd with hd | hd
    · exact isLower_of_mem_lowerAt hd
    · exact ih hd

/-- A text in lower case is left alone. -/
theorem lowerFrom_eq_self {before cs : List Char} (h : ∀ c ∈ cs, IsLower c) :
    lowerFrom before cs = cs := by
  induction cs generalizing before with
  | nil => rfl
  | cons c after ih =>
    obtain ⟨hself, hdotted⟩ := h c List.mem_cons_self
    have hsigma : c ≠ 'Σ' := by
      rintro rfl
      exact absurd hself (by decide +kernel)
    have hat : lowerAt before c after = [c] := by
      rw [lowerAt, if_neg hsigma, lowerChar, if_neg hdotted, hself]
    rw [lowerFrom_cons, hat, ih fun d hd => h d (List.mem_cons_of_mem c hd)]
    rfl

theorem head?_lowerFrom {before cs : List Char} (h : ∀ c, cs.head? = some c → isBlank c = false) :
    ∀ d, (lowerFrom before cs).head? = some d → isBlank d = false := by
  cases cs with
  | nil => exact h
  | cons c after =>
    intro d hd
    rw [lowerFrom_cons, List.head?_append_of_ne_nil _ (lowerAt_ne_nil _ _ _)] at hd
    exact isBlank_of_mem_lowerAt (h c rfl) (List.mem_of_head? hd)

theorem lowerFrom_ne_nil {before cs : List Char} (h : cs ≠ []) : lowerFrom before cs ≠ [] := by
  cases cs with
  | nil => exact absurd rfl h
  | cons c after =>
    rw [lowerFrom_cons]
    exact List.append_ne_nil_of_left_ne_nil (lowerAt_ne_nil _ _ _) _

theorem getLast?_lowerFrom {before cs : List Char}
    (h : ∀ c, cs.getLast? = some c → isBlank c = false) :
    ∀ d, (lowerFrom before cs).getLast? = some d → isBlank d = false := by
  induction cs generalizing before with
  | nil => exact h
  | cons c after ih =>
    intro d hd
    rw [lowerFrom_cons] at hd
    by_cases hafter : after = []
    · subst hafter
      rw [lowerFrom, List.append_nil] at hd
      exact isBlank_of_mem_lowerAt (h c rfl) (List.mem_of_getLast? hd)
    · rw [List.getLast?_append_of_ne_nil _ (lowerFrom_ne_nil hafter)] at hd
      apply ih _ d hd
      intro e he
      apply h e
      rw [List.getLast?_cons, he]
      rfl

/-! ## Trimming and lower-casing -/

/-- **Trimming and lower-casing a text twice is doing it once.** -/
theorem lowerCase_trim_normal (s : String) :
    lowerCase (trim (lowerCase (trim s))) = lowerCase (trim s) := by
  have htrim : trim (lowerCase (trim s)) = lowerCase (trim s) := by
    rw [trim, lowerCase, String.toList_ofList, trim_toList]
    rw [trimChars_eq_self (head?_lowerFrom (head?_trimChars _))
      (getLast?_lowerFrom (getLast?_trimChars _))]
  rw [htrim, lowerCase, lowerCase, String.toList_ofList,
    lowerFrom_eq_self fun _ => isLower_of_mem_lowerFrom]

end SessionAuth.Text
