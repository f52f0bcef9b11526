import CatalogSchema.Json.Parser
import CatalogSchema.Text.Blank

/-!
# Integer texts

A text can stand for an integer: white space around it, a sign, digits with single underscores between
them, and a point with nothing but zeros after it. Leading zeros count for nothing, and neither do the
underscores among them; the minus sign may also stand behind them. `IntegerText.read` takes a text first as
it stands and then cleared of all this; that the digits are too many is told of the text as it stands only.
-/

namespace CatalogSchema

/-- How a text reads as an integer. -/
inductive IntegerReading where
  | integer (n : Int)
  | malformed
  /-- More digits than are read. -/
  | tooLong
  deriving DecidableEq, Repr

namespace IntegerText

/-- What is left after leading zeros, `passed` being the last character of them. Where no digit but zero
follows, the last character stays. -/
def afterZeros (passed : Char) : List Char → Option (List Char)
  | [] => some [passed]
  | c :: cs =>
    if c = '0' ∨ c = '_' then afterZeros c cs
    else if c = '.' then some (passed :: c :: cs)
    else if c = '-' ∨ c.isDigit then some (c :: cs)
    else none

/-- A text that starts with a digit, without its leading zeros. -/
def withoutZeros : List Char → Option (List Char)
  | [] => none
  | c :: cs =>
    if c = '0' then afterZeros c cs
    else if c.isDigit then some (c :: cs)
    else none

/-- A text without the point and the zeros at its end. -/
def withoutPoint (cs : List Char) : List Char :=
  match cs.span (· ≠ '.') with
  | (ds, _ :: zeros) => if zeros ≠ [] ∧ zeros.all (· = '0') then ds else cs
  | (_, []) => cs

/-- Whether each underscore stands between two other characters, `before` being the one before the
text. -/
def isSeparated (before : Char) : List Char → Bool
  | [] => before ≠ '_'
  | c :: cs => (before ≠ '_' || c ≠ '_') && isSeparated c cs

/-- A text without its underscores, if they are where they may be. -/
def withoutUnderscores (cs : List Char) : List Char :=
  if isSeparated '_' cs then cs.filter (· ≠ '_') else cs

/-- Digits that are not preceded by a needless zero. -/
def readDigits (negative : Bool) (cs : List Char) : IntegerReading :=
  match Json.digits cs with
  | ([], _) | ('0' :: _ :: _, _) => .malformed
  | (ds, rest) =>
    if Json.isTooLong ds then .tooLong
    else if rest = [] then .integer (Json.signed negative (Nat.ofDigitChars 10 ds 0))
    else .malformed

def readSigned : List Char → IntegerReading
  | '-' :: cs => readDigits true cs
  | cs => readDigits false cs

/-- The sign that a text starts with, as far as it counts, and the rest. -/
def sign : List Char → List Char × List Char
  | '-' :: cs => (['-'], cs)
  | '+' :: cs => ([], cs)
  | cs => ([], cs)

/-- A text cleared of what counts for nothing. -/
def cleared (cs : List Char) : Option (List Char) :=
  let (sign, cs) := sign (Text.trim cs)
  (withoutZeros cs).map fun cs => withoutUnderscores (withoutPoint (sign ++ cs))

def read (s : String) : IntegerReading :=
  match readSigned s.toList with
  | .malformed =>
    match (cleared s.toList).map readSigned with
    | some (.integer n) => .integer n
    | _ => .malformed
  | reading => reading

end IntegerText

end CatalogSchema
