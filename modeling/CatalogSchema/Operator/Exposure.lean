import CatalogSchema.Configuration
import CatalogSchema.FirstCome
import CatalogSchema.Log.Record
import CatalogSchema.Operator.Variant

/-!
# Exposed names of operators

An infix operator is exposed under the names that the mappings give it and left out without one; a
function is exposed under its own name. For a type, an exposed name goes to whoever claims it first:
the mappings in their order, then the functions.
-/

namespace CatalogSchema

/-- A variant under the name that it is to be exposed by. -/
structure Claimant where
  exposed : String
  variant : Variant
  deriving DecidableEq, Repr

namespace Claimant

/-- An exposed name is claimed for the type of the first argument. -/
def key (c : Claimant) : String × String := (c.variant.left, c.exposed)

/-- The infix operators under their mapped names, in the order of the mappings. -/
def ofMappings (preferred : List Variant) (mappings : List OperatorMapping) : List Claimant :=
  mappings.flatMap fun m =>
    (preferred.filter fun v => v.isInfix && v.name = m.operator).map fun v => ⟨m.exposed, v⟩

/-- The functions under their own names. -/
def ofFunctions (preferred : List Variant) : List Claimant :=
  (preferred.filter fun v => !v.isInfix).map fun v => ⟨v.name, v⟩

def function (c : Claimant) : ComparisonFunction :=
  ⟨c.variant.name, c.variant.right, c.variant.isInfix⟩

def entry (c : Claimant) : String × String × ComparisonFunction :=
  (c.variant.left, c.exposed, c.function)

end Claimant

/-- Which claims to exposed names succeed, and the infix operators that make none. -/
structure Exposure where
  mapped : List (Bid Claimant)
  functions : List (Bid Claimant)
  unmapped : List String
  deriving DecidableEq, Repr

namespace Exposure

/-- The names of infix operators that no mapping exposes. -/
def unmappedNames (preferred : List Variant) (mappings : List OperatorMapping) : List String :=
  sortOn id (((preferred.filter Variant.isInfix).map Variant.name).filter fun name =>
    name ∉ mappings.map OperatorMapping.operator).eraseDups

def ofPreferred (preferred : OrderedMap (String × String) Variant)
    (mappings : List OperatorMapping) : Exposure :=
  let vs := sortBy (byTwo Variant.name Variant.left) preferred.values
  let mapped := Bid.settle Claimant.key [] (Claimant.ofMappings vs mappings)
  { mapped := mapped
    functions := Bid.settle Claimant.key (Bid.winners mapped) (Claimant.ofFunctions vs)
    unmapped := unmappedNames vs mappings }

def winners (e : Exposure) : List Claimant := Bid.winners e.mapped ++ Bid.winners e.functions

/-- The exposed functions by the type of the first argument, then by exposed name. -/
def comparisons (e : Exposure) : OrderedMap String (OrderedMap String ComparisonFunction) :=
  ((OrderedMap.nest (e.winners.map Claimant.entry)).mapValues OrderedMap.sortByKey).sortByKey

def collisionRecords (bids : List (Bid Claimant)) : List Log.Record :=
  (Bid.losers bids).map fun (c, holder) =>
    Log.Logger.comparisons.debug <|
      s!"Exposed name {c.exposed} for {c.variant.left} is already taken by " ++
        s!"{holder.variant.name}, ignoring {c.variant.name}"

def unmappedRecords (names : List String) : List Log.Record :=
  if names = [] then []
  else [Log.Logger.comparisons.debug <|
    "Infix operators without an exposed name: " ++ ", ".intercalate names]

def records (e : Exposure) : List Log.Record :=
  collisionRecords e.mapped ++ unmappedRecords e.unmapped ++ collisionRecords e.functions

end Exposure

end CatalogSchema
