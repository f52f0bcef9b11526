/-!
# The environment

The environment variables that the program is started with.
-/

namespace CatalogSchema

/-- The value of each variable that is set. -/
abbrev Environment : Type := String → Option String

/-- A variable that is set to something. -/
def Environment.get? (env : Environment) (name : String) : Option String :=
  (env name).filter (· ≠ "")

end CatalogSchema
