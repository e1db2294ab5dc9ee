import Mathlib.Data.List.Basic
import SessionAuth.Text.Split

/-!
# Texts cut at a character

* `splitOn_eq`: cutting a text is the cutting of lists.
* `intercalate_cons`: every piece but the first one has the character in front of it.
* `splitOn_intercalate`: pieces without the character are found again in the text that they make
  up.
-/

namespace SessionAuth.Text

variable {sep : Char} {cs : List Char}

theorem splitOn_eq (sep : Char) (cs : List Char) : splitOn sep cs = cs.splitOn sep := by
  induction cs with
  | nil => rw [splitOn, List.splitOn_nil]
  | cons c rest ih =>
    rw [splitOn, List.splitOn_cons_eq_if_modifyHead, ih]
    by_cases hc : c = sep
    · rw [if_pos hc, if_pos (beq_iff_eq.mpr hc)]
    · rw [if_neg hc, if_neg (mt beq_iff_eq.mp hc)]
      cases hrest : rest.splitOn sep with
      | nil => exact absurd hrest (List.splitOn_ne_nil sep rest)
      | cons piece pieces => rfl

theorem splitOn_of_notMem (h : sep ∉ cs) : splitOn sep cs = [cs] := by
  rw [splitOn_eq, List.splitOn_eq_singleton h]

theorem splitOn_append_cons (a b : List Char) :
    splitOn sep (a ++ sep :: b) = splitOn sep a ++ splitOn sep b := by
  simp only [splitOn_eq, List.splitOn_append_cons_self]

theorem intercalate_cons (sep : Char) (piece : List Char) (rest : List (List Char)) :
    [sep].intercalate (piece :: rest) = piece ++ rest.flatMap (sep :: ·) := by
  induction rest generalizing piece with
  | nil => simp
  | cons next rest ih => simp [List.intercalate_cons_cons, ih]

theorem splitOn_intercalate {pieces : List (List Char)} (h : ∀ piece ∈ pieces, sep ∉ piece)
    (hne : pieces ≠ []) : splitOn sep ([sep].intercalate pieces) = pieces := by
  rw [splitOn_eq, List.splitOn_intercalate sep h hne]

end SessionAuth.Text
