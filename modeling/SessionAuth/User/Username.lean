import SessionAuth.Error
import SessionAuth.Text.Blank

/-!
# Usernames

* `Username`: a text of three bytes at least without any white space.
* `Username.ofText`: trims a text and accepts it, or gives the first rule that it breaks.
-/

namespace SessionAuth

/-- A text of three bytes at least in UTF-8 and without white space. -/
@[ext] structure Username where
  text : String
  long : 3 ≤ text.utf8ByteSize
  noBlank : text.toList.any Text.isBlank = false
deriving DecidableEq

namespace Username

instance : Repr Username := ⟨fun name _ => repr name.text⟩

/-- The username that a text spells, without the white space around it. -/
def ofText (text : String) : Except DomainError Username :=
  let t := Text.trim text
  if t.isEmpty then .error (.validation "username cannot be empty")
  else if long : 3 ≤ t.utf8ByteSize then
    if noBlank : t.toList.any Text.isBlank = false then .ok ⟨t, long, noBlank⟩
    else .error (.validation "username cannot contain whitespace")
  else .error (.validation "username must be at least 3 characters long")

end Username

end SessionAuth
