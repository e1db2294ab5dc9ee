/-!
# Cutting a text at a character

* `splitOn`: the pieces between the places of a character.
* `splitFirst?`: the two sides of its first place.
* `intercalate_splitOn`: the pieces with the character between them are the text.
-/

namespace SessionAuth.Text

/-- The pieces between the places of a character; a text without it is one piece. -/
def splitOn (sep : Char) : List Char → List (List Char)
  | [] => [[]]
  | c :: rest =>
    if c = sep then [] :: splitOn sep rest
    else
      match splitOn sep rest with
      | piece :: pieces => (c :: piece) :: pieces
      | [] => [[c]]

/-- Splits a text at the first place of a character, which is dropped. -/
def splitFirst? (sep : Char) : List Char → Option (List Char × List Char)
  | [] => none
  | c :: rest =>
    if c = sep then some ([], rest) else (splitFirst? sep rest).map fun p => (c :: p.1, p.2)

theorem splitOn_ne_nil (sep : Char) (cs : List Char) : splitOn sep cs ≠ [] := by
  cases cs with
  | nil => simp [splitOn]
  | cons c rest =>
    simp only [splitOn]
    split
    · simp
    · split <;> simp

theorem intercalate_splitOn (sep : Char) (cs : List Char) :
    [sep].intercalate (splitOn sep cs) = cs := by
  induction cs with
  | nil => simp [splitOn]
  | cons c rest ih =>
    simp only [splitOn]
    cases h : splitOn sep rest with
    | nil => exact absurd h (splitOn_ne_nil sep rest)
    | cons piece pieces =>
      rw [h] at ih
      split
      · rename_i hc
        subst hc
        simp [List.intercalate, List.intersperse] at ih ⊢
        exact ih
      · cases pieces with
        | nil => simpa [List.intercalate] using ih
        | cons q qs => simpa [List.intercalate, List.intersperse] using ih

end SessionAuth.Text
