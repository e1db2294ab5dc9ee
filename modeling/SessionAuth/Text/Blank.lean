/-!
# Sets of characters, white space and trimming

A property of characters is given by the ranges of code points that have it.

* `CharSet.contains`: membership of a character in a set.
* `CharSet.contains_iff`: a character belongs to a set when one of the ranges holds its code point.
* `isBlank`: the White_Space property.
* `trim`: a text without the white space around it.
* `trimChars_eq_self`: a text with no white space at its ends is left alone.
-/

namespace SessionAuth.Text

/-! ## Sets of characters -/

/-- The characters whose code points lie in one of the ranges, both ends included. -/
structure CharSet where
  ranges : List (Nat × Nat)

namespace CharSet

def contains (s : CharSet) (c : Char) : Bool :=
  s.ranges.any fun r => r.1 ≤ c.toNat && c.toNat ≤ r.2

theorem contains_iff {s : CharSet} {c : Char} :
    s.contains c = true ↔ ∃ r ∈ s.ranges, r.1 ≤ c.toNat ∧ c.toNat ≤ r.2 := by
  simp [contains]

end CharSet

/-! ## White space -/

def blankSet : CharSet where
  ranges := [
    (0x9, 0xD), (0x20, 0x20), (0x85, 0x85), (0xA0, 0xA0), (0x1680, 0x1680), (0x2000, 0x200A),
    (0x2028, 0x2029), (0x202F, 0x202F), (0x205F, 0x205F), (0x3000, 0x3000)]

def isBlank (c : Char) : Bool := blankSet.contains c

def trimStart (cs : List Char) : List Char := cs.dropWhile isBlank

def trimEnd (cs : List Char) : List Char := (trimStart cs.reverse).reverse

def trimChars (cs : List Char) : List Char := trimEnd (trimStart cs)

def trim (s : String) : String := String.ofList (trimChars s.toList)

def isBlankText (s : String) : Bool := s.toList.all isBlank

theorem trimStart_eq_self {cs : List Char} (h : ∀ c, cs.head? = some c → isBlank c = false) :
    trimStart cs = cs := by
  cases cs with
  | nil => rfl
  | cons c r => simp [trimStart, h c rfl]

theorem trimChars_eq_self {cs : List Char} (hd : ∀ c, cs.head? = some c → isBlank c = false)
    (hl : ∀ c, cs.getLast? = some c → isBlank c = false) : trimChars cs = cs := by
  have : trimStart cs.reverse = cs.reverse :=
    trimStart_eq_self (by simpa [List.head?_reverse] using hl)
  simp [trimChars, trimEnd, trimStart_eq_self hd, this]

@[simp] theorem trim_toList (s : String) : (trim s).toList = trimChars s.toList := by
  simp [trim]

end SessionAuth.Text
