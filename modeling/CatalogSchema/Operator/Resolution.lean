import CatalogSchema.Operator.Definition
import CatalogSchema.Operator.Exposure
import CatalogSchema.Operator.Preference

/-!
# Comparison operators of a snapshot

Definitions are widened by casts, one variant is preferred for each operator and type, and the
preferred ones are exposed.
-/

namespace CatalogSchema

/-- The comparison operators of a snapshot, at each stage on the way to the exposed ones. -/
structure OperatorResolution where
  definitions : List Variant
  variants : List Variant
  preferred : OrderedMap (String × String) Variant
  exposure : Exposure

namespace OperatorResolution

def ofSnapshot (s : Snapshot) (types : Classification) (casts : List ImplicitCast)
    (mappings : List OperatorMapping) (allowed : List String) : OperatorResolution :=
  let definitions := Variant.definitions s types allowed
  let variants := Variant.extend casts definitions
  let preferred := Variant.select variants
  ⟨definitions, variants, preferred, .ofPreferred preferred mappings⟩

def comparisons (r : OperatorResolution) : OrderedMap String (OrderedMap String ComparisonFunction) :=
  r.exposure.comparisons

def records (r : OperatorResolution) : List Log.Record :=
  (Log.Logger.comparisons.debug <|
    s!"Resolved {r.preferred.size} comparison operators from {r.definitions.length} definitions " ++
      s!"and {r.variants.length} cast-extended variants") :: r.exposure.records

end OperatorResolution

end CatalogSchema
