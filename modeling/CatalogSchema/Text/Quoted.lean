import CatalogSchema.Json.Printer
import CatalogSchema.Text.Visible

/-!
# Quoted texts in messages

A text is quoted by apostrophes, or by double quotes when it has an apostrophe and no double quote. The
quote and the backslash are escaped, and hidden characters are written by their code points.
-/

namespace CatalogSchema.Text

/-- The mark that a text is quoted by. -/
def quoteMark (cs : List Char) : Char := if '\'' ∈ cs ∧ '"' ∉ cs then '"' else '\''

/-- The last `count` hexadecimal digits of a number. -/
def hexDigits : (count n : Nat) → List Char
  | 0, _ => []
  | count + 1, n => hexDigits count (n / 16) ++ [Json.hexChar (n % 16)]

/-- A hidden character by its code point, with as many digits as the letter after the backslash asks
for. -/
def escapeHidden (c : Char) : List Char :=
  if c.toNat ≤ 0xFF then '\\' :: 'x' :: hexDigits 2 c.toNat
  else if c.toNat ≤ 0xFFFF then '\\' :: 'u' :: hexDigits 4 c.toNat
  else '\\' :: 'U' :: hexDigits 8 c.toNat

def quoteChar (mark c : Char) : List Char :=
  if c = mark ∨ c = '\\' then ['\\', c]
  else if c = '\n' then ['\\', 'n']
  else if c = '\r' then ['\\', 'r']
  else if c = '\t' then ['\\', 't']
  else if isVisible c then [c]
  else escapeHidden c

def quoted (s : String) : String :=
  let mark := quoteMark s.toList
  String.ofList (mark :: (s.toList.flatMap (quoteChar mark) ++ [mark]))

end CatalogSchema.Text
