namespace sigis

inductive Role
  | SUPER_ADMIN
  | NATIONAL_ADMIN
  | REGIONAL_SUPERVISOR
  | INSPECTOR
  | HOST
deriving DecidableEq, Repr

def Role.value : Role → String
  | .SUPER_ADMIN => "SUPER_ADMIN"
  | .NATIONAL_ADMIN => "NATIONAL_ADMIN"
  | .REGIONAL_SUPERVISOR => "REGIONAL_SUPERVISOR"
  | .INSPECTOR => "INSPECTOR"
  | .HOST => "HOST"

def Role.members : List Role :=
  [.SUPER_ADMIN, .NATIONAL_ADMIN, .REGIONAL_SUPERVISOR, .INSPECTOR, .HOST]

/-- `Role(value)`. -/
def Role.of_value (value : String) : Option Role :=
  Role.members.find? fun role => role.value = value

/-- Every member is read back from its own value. -/
theorem Role.of_value_value (role : Role) : Role.of_value role.value = some role := by
  cases role <;> decide

end sigis
