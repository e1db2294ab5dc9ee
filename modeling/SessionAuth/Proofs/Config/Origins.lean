import SessionAuth.Proofs.Config.LookUp
import SessionAuth.Proofs.Text.Split

/-!
# The origins that are configured

An operator writes origins with commas between them and with white space wherever it is convenient.
What counts as an origin of such a text is said here without a way to find them, and it is shown
that just these are found.

* `Text.Piece`: a piece of a text between two places of a character; `Text.mem_splitOn_iff` says
  that these are the pieces into which the text is cut.
* `Config.Lists`: a text lists an origin.
* `Config.Configures`: a look-up configures an origin, by a list or by default.
* `Config.mem_allowedOrigins_iff`: a configuration has the origins that its look-up configures.
-/

namespace SessionAuth

namespace Text

variable {sep : Char} {cs piece : List Char}

/-- The piece stands in the text between two places of a character, or between such a place and an
end of the text, and the character is not in the piece. -/
def Piece (sep : Char) (cs piece : List Char) : Prop :=
  sep ∉ piece ∧ ∃ before after, cs = before ++ (piece ++ after) ∧
    (before = [] ∨ ∃ b, before = b ++ [sep]) ∧ (after = [] ∨ ∃ a, after = sep :: a)

theorem piece_of_mem_splitOn (h : piece ∈ splitOn sep cs) : Piece sep cs piece := by
  -- The text up to the first place of the character is one piece; the rest is shorter.
  induction hn : cs.length using Nat.strongRecOn generalizing cs with
  | ind n ih =>
    by_cases hmem : sep ∈ cs
    · obtain ⟨first, rest, rfl, hfirst⟩ := List.eq_append_cons_of_mem hmem
      rw [splitOn_append_cons, splitOn_of_notMem hfirst, List.singleton_append] at h
      rcases List.mem_cons.mp h with rfl | h
      · exact ⟨hfirst, [], sep :: rest, rfl, Or.inl rfl, Or.inr ⟨rest, rfl⟩⟩
      · have hlt : rest.length < n := by
          rw [List.length_append, List.length_cons] at hn
          omega
        obtain ⟨hpiece, before, after, rfl, hbefore, hafter⟩ := ih _ hlt h rfl
        refine ⟨hpiece, first ++ sep :: before, after, by simp, Or.inr ?_, hafter⟩
        rcases hbefore with rfl | ⟨b, rfl⟩
        · exact ⟨first, rfl⟩
        · exact ⟨first ++ sep :: b, by simp⟩
    · rw [splitOn_of_notMem hmem, List.mem_singleton] at h
      subst h
      exact ⟨hmem, [], [], by simp, Or.inl rfl, Or.inl rfl⟩

theorem Piece.mem_splitOn (h : Piece sep cs piece) : piece ∈ splitOn sep cs := by
  obtain ⟨hpiece, before, after, rfl, hbefore, hafter⟩ := h
  have hrest : piece ∈ splitOn sep (piece ++ after) := by
    rcases hafter with rfl | ⟨a, rfl⟩
    · rw [List.append_nil, splitOn_of_notMem hpiece]
      exact List.mem_singleton_self piece
    · rw [splitOn_append_cons, splitOn_of_notMem hpiece]
      exact List.mem_cons_self
  rcases hbefore with rfl | ⟨b, rfl⟩
  · exact hrest
  · rw [List.append_assoc, List.singleton_append, splitOn_append_cons]
    exact List.mem_append_right _ hrest

/-- **The pieces into which a text is cut** are those between two places of the character. -/
theorem mem_splitOn_iff : piece ∈ splitOn sep cs ↔ Piece sep cs piece :=
  ⟨piece_of_mem_splitOn, Piece.mem_splitOn⟩

end Text

namespace Config

variable {lookup : String → Option String} {config : Config} {text origin : String}

/-- The text lists the origin: it stands between two commas, or between a comma and an end of the
text, with white space around it perhaps, and it is not empty. -/
def Lists (text origin : String) : Prop :=
  origin ≠ "" ∧ ∃ piece, Text.Piece ',' text.toList piece ∧ origin.toList = Text.trimChars piece

theorem mem_splitOrigins_iff : origin ∈ splitOrigins text ↔ Lists text origin := by
  unfold splitOrigins Lists
  simp only [List.mem_filter, List.mem_map, Text.mem_splitOn_iff, Bool.not_eq_true',
    ← Bool.not_eq_true, String.isEmpty_iff]
  constructor
  · rintro ⟨⟨piece, hpiece, rfl⟩, hne⟩
    exact ⟨hne, piece, hpiece, String.toList_ofList⟩
  · rintro ⟨hne, piece, hpiece, horigin⟩
    exact ⟨⟨piece, hpiece, by rw [← horigin, String.ofList_toList]⟩, hne⟩

/-- The look-up configures the origin. What it gives under the name for origins lists the origin,
or it gives nothing there but white space, and the origin is the default. -/
def Configures (lookup : String → Option String) (origin : String) : Prop :=
  (∃ text, lookup originsName = some text ∧ Text.isBlankText text = false ∧ Lists text origin) ∨
    (∀ text, lookup originsName = some text → Text.isBlankText text = true) ∧
      origin = "http://localhost:3000"

theorem configures_iff : Configures lookup origin ↔
    origin ∈ ((present lookup originsName).map splitOrigins).getD ["http://localhost:3000"] := by
  rw [Configures, present]
  cases hlookup : lookup originsName with
  | none => simp
  | some text =>
    by_cases hblank : Text.isBlankText text = true
    · simp [Option.filter, hblank]
    · have hfilled : Text.isBlankText text = false := Bool.eq_false_iff.mpr hblank
      simp [Option.filter, hfilled, mem_splitOrigins_iff]

instance (lookup : String → Option String) (origin : String) :
    Decidable (Configures lookup origin) := decidable_of_iff' _ configures_iff

/-- **A configuration has the origins that its look-up configures**, and no others. -/
theorem mem_allowedOrigins_iff (h : ofLookup lookup = .ok config) :
    origin ∈ config.allowedOrigins ↔ Configures lookup origin := by
  rw [(readFrom h).allowedOrigins, configures_iff]

end Config

end SessionAuth
