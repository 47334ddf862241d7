/-
# Environment variables
-/

namespace Gradebook

/-- The values of the environment variables that are set. -/
abbrev Environment : Type := String → Option String

/-- Sets a variable, unless it has a value already. -/
def Environment.provide (values : Environment) (name value : String) : Environment :=
  fun other => (values other).or (if other = name then some value else none)

end Gradebook
