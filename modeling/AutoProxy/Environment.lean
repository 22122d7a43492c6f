import AutoProxy.Text.Blank

/-! Named values from outside the program. -/
namespace AutoProxy

abbrev Environment := List (Text × Text)

namespace Environment

/-- The value without the blanks around it; a missing one is empty. -/
def value (env : Environment) (name : Text) : Text := Text.trim ((env.lookup name).getD [])

/-- The value, unless it is blank or missing. -/
def value? (env : Environment) (name : Text) : Option Text :=
  match env.value name with
  | [] => none
  | v => some v

end Environment

end AutoProxy
