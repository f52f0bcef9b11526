/-!
# JSON documents

A document keeps the members of an object in the order they were written, repeated keys included.
An integer is exact; a number written with a fraction or an exponent is kept as the digits say, the sign
of a zero included.
-/

namespace CatalogSchema

/-- A number written with a fraction or an exponent, or one of the three that are not finite. -/
inductive Decimal where
  /-- The number `mantissa * 10 ^ exponent`, below zero if it is negative. -/
  | finite (negative : Bool) (mantissa : Nat) (exponent : Int)
  | infinite (negative : Bool)
  | notANumber
  deriving DecidableEq, Repr

inductive Json where
  | null
  | bool (b : Bool)
  | int (n : Int)
  | decimal (x : Decimal)
  | str (s : String)
  | arr (items : List Json)
  | obj (members : List (String × Json))
  deriving Repr, Inhabited

namespace Json

/-- The integer with a sign and an absolute value. -/
def signed (negative : Bool) (n : Nat) : Int := if negative then -(n : Int) else n

/-- The value of the last member with the key. -/
def lastMember? (key : String) : List (String × Json) → Option Json
  | [] => none
  | (k, j) :: rest => (lastMember? key rest).or (if k = key then some j else none)

/-- The value of a member of an object. -/
def member? (j : Json) (key : String) : Option Json :=
  match j with
  | .obj members => lastMember? key members
  | _ => none

def ofOption {α : Type _} (encode : α → Json) : Option α → Json
  | none => .null
  | some a => encode a

def ofStrings (xs : List String) : Json := .arr (xs.map .str)

def ofInts (xs : List Int) : Json := .arr (xs.map .int)

end Json

end CatalogSchema
