import SessionAuth.Error

/-!
# Roles

* `Role.name`, `Role.ofName?`: the name of a role and back; `Role.ofName?_name` says that the
  first is undone by the second.
-/

namespace SessionAuth

/-- What a user may do. A new user is an ordinary one. -/
inductive Role where
  | admin
  | user
deriving DecidableEq, Repr

namespace Role

instance : Inhabited Role := ⟨.user⟩

def name : Role → String
  | .admin => "admin"
  | .user => "user"

def ofName? : String → Option Role
  | "admin" => some .admin
  | "user" => some .user
  | _ => none

/-- The role with this name, or the reason why there is none. -/
def ofName (name : String) : Except DomainError Role :=
  match ofName? name with
  | some role => .ok role
  | none => .error (.validation ("unknown role '" ++ name ++ "'"))

@[simp] theorem ofName?_name (role : Role) : ofName? role.name = some role := by
  cases role <;> rfl

end Role

end SessionAuth
