import CatalogSchema.Text.Blank
import CatalogSchema.Text.Digit

/-!
# Integers in a text

`Text.integer?` reads an integer that stands alone in a text: white space around it, a sign, and
decimal digits of any script, with single underscores allowed between them.
-/

namespace CatalogSchema.Text

/-- The most digits that are read. -/
def maxDigits : Nat := 4300

/-- The values of one or more digits, a single underscore being allowed between two of them. -/
def digitGroups : List Char → Option (List Nat)
  | [] => none
  | [c] => (digitValue? c).map ([·])
  | c :: '_' :: rest => List.cons <$> digitValue? c <*> digitGroups rest
  | c :: rest => List.cons <$> digitValue? c <*> digitGroups rest

/-- The number that digits stand for, the most significant one first. -/
def ofDigits (ds : List Nat) : Nat := ds.foldl (fun n d => 10 * n + d) 0

def natural? (cs : List Char) : Option Nat :=
  ((digitGroups cs).filter (·.length ≤ maxDigits)).map ofDigits

def integer? (s : String) : Option Int :=
  match trim s.toList with
  | '-' :: cs => (natural? cs).map fun n => -(n : Int)
  | '+' :: cs => (natural? cs).map Int.ofNat
  | cs => (natural? cs).map Int.ofNat

end CatalogSchema.Text
