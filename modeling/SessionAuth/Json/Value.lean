import SessionAuth.Binary64.Basic

/-!
# JSON values

A number is an integer or a finite binary64 number. The members of an object are kept in a list;
a map of claims keeps them in ascending order of their keys, each key once.

* `Fields.insert`, `Fields.merge`: writing members; a key that is already there is replaced.
* `Fields.get?`: reading a member.
* `Fields.get?_insert_self`, `Fields.get?_insert_of_ne`: what reading after writing gives.
-/

namespace SessionAuth

/-- A JSON number: a 64-bit integer, signed or unsigned, or a binary64 number. -/
inductive Json.Number where
  | int (n : Int)
  | float (x : Binary64)
deriving DecidableEq, Repr

/-- A JSON value. -/
inductive Json where
  | null
  | bool (b : Bool)
  | number (n : Json.Number)
  | string (s : String)
  | array (items : List Json)
  | object (fields : List (String × Json))
deriving Repr

namespace Json

abbrev Fields := List (String × Json)

def int (n : Int) : Json := .number (.int n)

def string? : Json → Option String
  | .string s => some s
  | _ => none

def array? : Json → Option (List Json)
  | .array items => some items
  | _ => none

def object? : Json → Option Fields
  | .object fields => some fields
  | _ => none

namespace Fields

def get? (fields : Fields) (key : String) : Option Json := fields.lookup key

/-- Stores a value under a key, in ascending order of keys. -/
def insert (key : String) (value : Json) : Fields → Fields
  | [] => [(key, value)]
  | (k, v) :: rest =>
    if key = k then (key, value) :: rest
    else if key < k then (key, value) :: (k, v) :: rest
    else (k, v) :: insert key value rest

/-- Stores every member of `extra`, which wins over what is there. -/
def merge (fields extra : Fields) : Fields :=
  extra.foldl (fun acc member => acc.insert member.1 member.2) fields

/-- The members of a list, of which the last one of a key counts. -/
def ofList (members : List (String × Json)) : Fields := merge [] members

/-- The keys ascend, so none of them repeats. -/
def Sorted (fields : Fields) : Prop := (fields.map Prod.fst).Pairwise (· < ·)

@[simp] theorem get?_insert_self (fields : Fields) (key : String) (value : Json) :
    (fields.insert key value).get? key = some value := by
  induction fields with
  | nil => simp [insert, get?]
  | cons member rest ih =>
    obtain ⟨k, v⟩ := member
    simp only [insert]
    split
    · simp [get?]
    · split
      · simp [get?]
      · rename_i hne _
        simp only [get?, List.lookup_cons] at ih ⊢
        rw [show (key == k) = false by simpa using hne]
        exact ih

theorem get?_insert_of_ne (fields : Fields) {key other : String} (value : Json)
    (h : other ≠ key) : (fields.insert key value).get? other = fields.get? other := by
  have hb : (other == key) = false := by simpa using h
  induction fields with
  | nil => simp [insert, get?, List.lookup_cons, hb]
  | cons member rest ih =>
    obtain ⟨k, v⟩ := member
    simp only [insert]
    split
    · rename_i hk
      subst hk
      simp [get?, List.lookup_cons, hb]
    · split
      · simp [get?, List.lookup_cons, hb]
      · simp only [get?, List.lookup_cons] at ih ⊢
        split
        · rfl
        · exact ih

end Fields

end Json

end SessionAuth
