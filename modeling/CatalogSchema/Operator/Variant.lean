import CatalogSchema.Typing.ImplicitCast

/-!
# Operator variants

A comparison operator is defined on two argument types. A variant of it takes, in place of either
argument, a type that is implicitly cast to it; it remembers the types of the definition. `extend`
adds to each variant those that one more cast in each position gives. A position that was already
cast is never cast again, so casts are not chained.
-/

namespace CatalogSchema

open Decoder (field fieldOr record)

structure Variant where
  name : String
  left : String
  right : String
  isInfix : Bool
  /-- Whether the first argument is cast. -/
  leftCast : Bool
  /-- Whether the second argument is cast. -/
  rightCast : Bool
  declaredLeft : String
  declaredRight : String
  deriving DecidableEq, Repr

namespace Variant

/-- The variant that a definition itself is. -/
def declared (name left right : String) (isInfix : Bool) : Variant :=
  ⟨name, left, right, isInfix, false, false, left, right⟩

def decode : Decoder Variant := record fun ms =>
  mk <$> field (.plain "operator_name") .text ms
    <*> field (.plain "argument1_type") .text ms
    <*> field (.plain "argument2_type") .text ms
    <*> field (.plain "is_infix") .flag ms
    <*> fieldOr (.plain "argument1_casted") .flag false ms
    <*> fieldOr (.plain "argument2_casted") .flag false ms
    <*> field (.plain "declared_argument1_type") .text ms
    <*> field (.plain "declared_argument2_type") .text ms

def encode (v : Variant) : Json :=
  .obj
    [("operator_name", .str v.name), ("argument1_type", .str v.left),
     ("argument2_type", .str v.right), ("is_infix", .bool v.isInfix),
     ("argument1_casted", .bool v.leftCast), ("argument2_casted", .bool v.rightCast),
     ("declared_argument1_type", .str v.declaredLeft),
     ("declared_argument2_type", .str v.declaredRight)]

/-- By all fields in their order. -/
def compareFields : Variant → Variant → Ordering :=
  compareLex (byTwo name left) <|
    compareLex (byTwo right isInfix) <|
      compareLex (byTwo leftCast rightCast) (byTwo declaredLeft declaredRight)

def inOrder (vs : List Variant) : List Variant := sortBy compareFields vs

/-- Whether any argument is cast. -/
def isCast (v : Variant) : Bool := v.leftCast || v.rightCast

/-- The operator and the type of its first argument, for which one variant is chosen. -/
def key (v : Variant) : String × String := (v.name, v.left)

def castLeft (v : Variant) (source : String) : Variant := { v with left := source, leftCast := true }

def castRight (v : Variant) (source : String) : Variant :=
  { v with right := source, rightCast := true }

/-- The types that are cast to `target`. -/
def sources (casts : List ImplicitCast) (target : String) : List String :=
  (casts.filter (·.target = target)).map ImplicitCast.source

/-- The types that may take the place of the first argument. -/
def leftSources (casts : List ImplicitCast) (v : Variant) : List String :=
  if v.leftCast then [] else sources casts v.left

/-- The types that may take the place of the second argument. -/
def rightSources (casts : List ImplicitCast) (v : Variant) : List String :=
  if v.rightCast then [] else sources casts v.right

/-- The variant itself and all that casting one or both of its arguments gives. -/
def widened (casts : List ImplicitCast) (v : Variant) : List Variant :=
  v :: (v.leftSources casts).map v.castLeft ++ (v.rightSources casts).map v.castRight ++
    (v.leftSources casts).flatMap fun s => (v.rightSources casts).map (v.castLeft s).castRight

/-- The set of the variants and their widenings. -/
def extend (casts : List ImplicitCast) (vs : List Variant) : List Variant :=
  (vs.flatMap (widened casts)).eraseDups

@[simp] theorem mem_extend {casts : List ImplicitCast} {vs : List Variant} {w : Variant} :
    w ∈ extend casts vs ↔ ∃ v ∈ vs, w ∈ widened casts v := by
  simp [extend, List.mem_eraseDups]

end Variant

end CatalogSchema
