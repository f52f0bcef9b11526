import CatalogSchema.Json.Basic

/-!
# Numbers in binary64

A number with a fraction or an exponent is read as the nearest binary64 number, a tie going to the
even significand. `Decimal.toWhole` then says whether that number is an integer.
-/

namespace CatalogSchema

namespace Binary64

def twoTo (k : Nat) : Nat := Nat.pow 2 k

def tenTo (k : Nat) : Nat := Nat.pow 10 k

/-- The quotient rounded to the nearest integer, a tie going to the even one. -/
def divHalfEven (n d : Nat) : Nat :=
  let q := n / d
  let r := n % d
  if 2 * r < d then q else if d < 2 * r then q + 1 else if q % 2 = 0 then q else q + 1

/-- The quotient `n / d * 2 ^ (-u)` rounded to an integer. -/
def scaled (n d : Nat) (u : Int) : Nat :=
  if 0 ≤ u then divHalfEven n (d * twoTo u.toNat) else divHalfEven (n * twoTo (-u).toNat) d

/-- The exponent of the last place of a positive quotient: 53 significant bits, above the least
positive number. -/
def lastPlace (n d : Nat) : Int :=
  let k : Int := (n.log2 : Int) - (d.log2 : Int)
  let reaches : Bool := if 0 ≤ k then d * twoTo k.toNat ≤ n else d ≤ n * twoTo (-k).toNat
  max (if reaches then k - 52 else k - 53) (-1074)

/-- The number nearest to `m * 10 ^ e` as `(q, u)`, which stands for `q * 2 ^ u`; none when it lies
beyond the greatest one. Far outside the range the powers are not worked out. -/
def nearest (m : Nat) (e : Int) : Option (Nat × Int) :=
  if m = 0 ∨ (e < 0 ∧ (m.log2 : Int) + 1 + 3 * e ≤ -1076) then some (0, 0)
  else if 400 < e then none
  else
    let n := if 0 ≤ e then m * tenTo e.toNat else m
    let d := if 0 ≤ e then 1 else tenTo (-e).toNat
    let u := lastPlace n d
    let q := scaled n d u
    if q = 0 then some (0, 0)
    else if 1024 ≤ (q.log2 : Int) + u then none
    else some (q, u)

end Binary64

/-- What a number with a fraction or an exponent is as an integer. -/
inductive Whole where
  | integer (n : Int)
  | fractional
  /-- An integer that a signed 64-bit word does not hold. -/
  | outOfRange
  | notFinite
  deriving DecidableEq, Repr

namespace Decimal

/-- Two to the 63rd, the least number that a signed 64-bit word does not hold. -/
def wordBound : Nat := 9223372036854775808

def toWhole : Decimal → Whole
  | infinite _ => .notFinite
  | notANumber => .notFinite
  | finite negative m e =>
    match Binary64.nearest m e with
    | none => .notFinite
    | some (q, u) =>
      let unit := Binary64.twoTo (-u).toNat
      if u < 0 ∧ q % unit ≠ 0 then .fractional
      else
        let n : Nat := if u < 0 then q / unit else q * Binary64.twoTo u.toNat
        if n < wordBound then .integer (Json.signed negative n) else .outOfRange

end Decimal

end CatalogSchema
