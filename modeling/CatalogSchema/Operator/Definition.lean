import CatalogSchema.Catalog.Snapshot
import CatalogSchema.Operator.Variant

/-!
# Definitions of comparison operators

The catalog defines comparison operators in two ways: infix operators over scalar types with a
Boolean result, and those functions of two scalar arguments with a Boolean result that are allowed by
name. Each definition is a variant without casts, and repeated definitions count once.
-/

namespace CatalogSchema

namespace Variant

/-- The result type of a comparison. -/
def resultType : String := "bool"

def ofOperator? (types : Classification) (r : OperatorRow) : Option Variant :=
  if types.scalarName? r.result = some resultType then do
    let left ← types.scalarName? r.left
    let right ← types.scalarName? r.right
    some (declared r.name left right true)
  else none

/-- A function that can be called with exactly its declared arguments, by the kind of plain functions. -/
def isPlainFunction (p : ProcRow) : Bool := p.kind = "f" && p.variadic = 0 && p.defaults = 0

def ofProc? (types : Classification) (p : ProcRow) : Option Variant :=
  if isPlainFunction p ∧ types.scalarName? p.returnType = some resultType then
    match p.argumentTypes with
    | [first, second] => do
      let left ← types.scalarName? first
      let right ← types.scalarName? second
      some (declared p.name left right false)
    | _ => none
  else none

/-- The infix operators. -/
def infixDefinitions (s : Snapshot) (types : Classification) : List Variant :=
  (s.rows.operators.filterMap (ofOperator? types)).eraseDups

/-- The functions whose name is allowed. -/
def functionDefinitions (s : Snapshot) (types : Classification) (allowed : List String) :
    List Variant :=
  ((s.rows.procs.filter (·.name ∈ allowed)).filterMap (ofProc? types)).eraseDups

/-- All definitions. The two ways never give the same one, since they differ in `isInfix`. -/
def definitions (s : Snapshot) (types : Classification) (allowed : List String) : List Variant :=
  infixDefinitions s types ++ functionDefinitions s types allowed

end Variant

end CatalogSchema
