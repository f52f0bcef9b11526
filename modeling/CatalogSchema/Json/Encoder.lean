import CatalogSchema.Json.Basic
import CatalogSchema.OrderedMap

/-!
# Encoding records

A record can be written under either spelling of its fields: by label, as files and answers have
them, or by field name.
-/

namespace CatalogSchema

universe u

/-- Which spelling of the fields is written. -/
inductive Spelling where
  | byLabel
  | byName
  deriving DecidableEq, Repr

def Spelling.pick : Spelling → (name label : String) → String
  | byLabel, _, label => label
  | byName, name, _ => name

/-- A mapping, its entries in their order. -/
def Json.ofMap {ν : Type u} (encode : ν → Json) (m : OrderedMap String ν) : Json :=
  .obj (m.entries.map fun e => (e.1, encode e.2))

end CatalogSchema
