import CatalogSchema.Operator.Variant

/-!
# Preference among variants

For an operator and the type of its first argument one variant is kept: the one of least rank. A
definition on one type comes first, then any definition, then variants whose first argument is not
cast or whose second argument is the type that the first was declared with, then those whose second
argument is not cast, then the least second type. The rest of the rank only decides ties.
-/

namespace CatalogSchema

/-- What variants are compared by, the most important first; `false` is preferred to `true`. -/
structure Rank where
  /-- Not a definition on a single type. -/
  mixed : Bool
  cast : Bool
  /-- The first argument is cast and the second is not the type it was declared with. -/
  estranged : Bool
  rightCast : Bool
  right : String
  /-- A function. -/
  isFunction : Bool
  declaredLeft : String
  declaredRight : String
  deriving DecidableEq, Repr

namespace Rank

def compare : Rank → Rank → Ordering :=
  compareLex (byTwo mixed cast) <|
    compareLex (byTwo estranged rightCast) <|
      compareLex (byTwo right isFunction) (byTwo declaredLeft declaredRight)

end Rank

namespace Variant

def rank (v : Variant) : Rank where
  mixed := v.isCast || v.left != v.right
  cast := v.isCast
  estranged := v.leftCast && v.right != v.declaredLeft
  rightCast := v.rightCast
  right := v.right
  isFunction := !v.isInfix
  declaredLeft := v.declaredLeft
  declaredRight := v.declaredRight

def compareRank (v w : Variant) : Ordering := v.rank.compare w.rank

/-- Strictly preferred. -/
def isPreferredTo (v w : Variant) : Bool := (v.compareRank w).isLT

/-- Keep a variant when its key is free or held by one it is preferred to. -/
def offer (held : OrderedMap (String × String) Variant) (v : Variant) :
    OrderedMap (String × String) Variant :=
  match held.find? v.key with
  | none => held.insert v.key v
  | some w => if v.isPreferredTo w then held.insert v.key v else held

/-- The preferred variant for each key. -/
def select (vs : List Variant) : OrderedMap (String × String) Variant := vs.foldl offer .empty

end Variant

end CatalogSchema
