import SessionAuth.Text.Blank

/-!
# What trimming leaves

* `head?_trimChars`, `getLast?_trimChars`: there is no white space at its ends.
* `exists_trimChars`: it is a piece of the text, and all around it is white space.
* `trimChars_around`: nothing else is such a piece.
* `trim_trim`: nothing is left to trim.
* `isBlankText_iff`: a text with nothing but white space is trimmed to nothing.
-/

namespace SessionAuth.Text

theorem trimStart_append {before cs : List Char} (h : ∀ c ∈ before, isBlank c = true) :
    trimStart (before ++ cs) = trimStart cs :=
  List.dropWhile_append_of_pos h

theorem head?_trimStart {cs : List Char} {c : Char} (h : (trimStart cs).head? = some c) :
    isBlank c = false := by
  have hhead := List.head?_dropWhile_not isBlank cs
  rw [trimStart] at h
  rwa [h] at hhead

theorem exists_trimStart (cs : List Char) :
    ∃ before, cs = before ++ trimStart cs ∧ ∀ c ∈ before, isBlank c = true :=
  ⟨cs.takeWhile isBlank, List.takeWhile_append_dropWhile.symm,
    fun c hc => List.all_eq_true.mp List.all_takeWhile c hc⟩

theorem exists_trimEnd (cs : List Char) :
    ∃ after, cs = trimEnd cs ++ after ∧ ∀ c ∈ after, isBlank c = true := by
  obtain ⟨before, hreverse, hbefore⟩ := exists_trimStart cs.reverse
  refine ⟨before.reverse, ?_, fun c hc => hbefore c (List.mem_reverse.mp hc)⟩
  rw [trimEnd, ← List.reverse_append, ← hreverse, List.reverse_reverse]

/-- **Trimming leaves a piece of the text**, and what it takes away is white space. -/
theorem exists_trimChars (cs : List Char) :
    ∃ before after, cs = before ++ (trimChars cs ++ after) ∧
      (∀ c ∈ before, isBlank c = true) ∧ ∀ c ∈ after, isBlank c = true := by
  obtain ⟨before, hstart, hbefore⟩ := exists_trimStart cs
  obtain ⟨after, hend, hafter⟩ := exists_trimEnd (trimStart cs)
  exact ⟨before, after, by rw [trimChars, ← hend, ← hstart], hbefore, hafter⟩

theorem getLast?_trimChars (cs : List Char) :
    ∀ c, (trimChars cs).getLast? = some c → isBlank c = false := by
  intro c hc
  rw [trimChars, trimEnd, List.getLast?_reverse] at hc
  exact head?_trimStart hc

theorem head?_trimChars (cs : List Char) :
    ∀ c, (trimChars cs).head? = some c → isBlank c = false := by
  intro c hc
  -- What is cut off at the end leaves the first character where it is.
  obtain ⟨after, hend, -⟩ := exists_trimEnd (trimStart cs)
  have hhead : (trimStart cs).head? = some c := by
    rw [hend, List.head?_append, ← trimChars, hc]
    rfl
  exact head?_trimStart hhead

/-- **White space around a text that has none at its ends is trimmed away.** -/
theorem trimChars_around {before body after : List Char} (hbefore : ∀ c ∈ before, isBlank c = true)
    (hhead : ∀ c, body.head? = some c → isBlank c = false)
    (hlast : ∀ c, body.getLast? = some c → isBlank c = false)
    (hafter : ∀ c ∈ after, isBlank c = true) : trimChars (before ++ (body ++ after)) = body := by
  have hend : trimEnd (body ++ after) = body := by
    have hreverse : ∀ c ∈ after.reverse, isBlank c = true := fun c hc =>
      hafter c (List.mem_reverse.mp hc)
    rw [trimEnd, List.reverse_append, trimStart_append hreverse, trimStart_eq_self,
      List.reverse_reverse]
    simpa [List.head?_reverse] using hlast
  rw [trimChars, trimStart_append hbefore]
  cases body with
  | nil =>
    rw [List.nil_append, ← List.append_nil after, trimStart_append hafter]
    rfl
  | cons c cs =>
    have hstart : trimStart (c :: cs ++ after) = c :: cs ++ after :=
      trimStart_eq_self fun d hd => hhead d hd
    rw [hstart, hend]

theorem trim_trim (s : String) : trim (trim s) = trim s := by
  rw [trim, trim_toList, trimChars_eq_self (head?_trimChars _) (getLast?_trimChars _), trim]

theorem isBlankText_iff {s : String} : isBlankText s = true ↔ trim s = "" := by
  rw [isBlankText, List.all_eq_true, trim, String.ofList_eq_empty_iff]
  constructor
  · intro h
    rw [← List.append_nil s.toList, trimChars, trimStart_append h]
    rfl
  · intro h
    obtain ⟨before, after, hs, hbefore, hafter⟩ := exists_trimChars s.toList
    rw [h, List.nil_append] at hs
    intro c hc
    rw [hs] at hc
    exact (List.mem_append.mp hc).elim (hbefore c) (hafter c)

end SessionAuth.Text
