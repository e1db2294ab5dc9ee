import SessionAuth.Error
import SessionAuth.Text.Blank
import SessionAuth.Text.LowerCase
import SessionAuth.Text.Split

/-!
# E-mail addresses

* `Email`: an address with something before its first at sign and a dot somewhere after it.
* `Email.ofText`: trims a text, lower-cases it and accepts it if it has that form.
-/

namespace SessionAuth

/-- Something stands before the first at sign, and a dot after it. -/
def Email.wellFormed (text : String) : Bool :=
  match Text.splitFirst? '@' text.toList with
  | some (name, domain) => !name.isEmpty && domain.contains '.'
  | none => false

/-- An e-mail address. -/
@[ext] structure Email where
  text : String
  valid : Email.wellFormed text = true
deriving DecidableEq

namespace Email

instance : Repr Email := ⟨fun email _ => repr email.text⟩

/-- The address that a text spells, trimmed and in lower case. -/
def ofText (text : String) : Except DomainError Email :=
  let t := Text.lowerCase (Text.trim text)
  if h : wellFormed t = true then .ok ⟨t, h⟩
  else .error (.validation "email address is malformed")

end Email

end SessionAuth
