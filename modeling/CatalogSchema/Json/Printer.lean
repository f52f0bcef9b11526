import CatalogSchema.Json.Basic

/-!
# Writing JSON

`Json.render` writes a document in one of three layouts. In a string only the quote, the backslash
and the characters below the space are escaped; the members of an object keep their order.
-/

namespace CatalogSchema

namespace Json

/-- How items are set apart. -/
inductive Layout where
  /-- No blanks at all. -/
  | compact
  /-- A blank after each comma and colon. -/
  | spaced
  /-- Each item on a line of its own, indented by `width` for each level. -/
  | indented (width : Nat)
  deriving DecidableEq, Repr

namespace Layout

/-- A new line at a level. -/
def newline (width level : Nat) : List Char := '\n' :: List.replicate (width * level) ' '

/-- What stands between a bracket and the first item at a level. -/
def opening : Layout → Nat → List Char
  | indented width, level => newline width level
  | _, _ => []

/-- What stands between the last item and the bracket at a level. -/
def closing : Layout → Nat → List Char := opening

/-- What stands between two items at a level. -/
def separator : Layout → Nat → List Char
  | compact, _ => [',']
  | spaced, _ => [',', ' ']
  | indented width, level => ',' :: newline width level

/-- What stands between a key and its value. -/
def colon : Layout → List Char
  | compact => [':']
  | _ => [':', ' ']

end Layout

def hexChar (n : Nat) : Char := if n < 10 then Char.ofNat (48 + n) else Char.ofNat (87 + n)

/-- A character as it is written inside a string. -/
def escapeChar (c : Char) : List Char :=
  if c = '"' then ['\\', '"']
  else if c = '\\' then ['\\', '\\']
  else if c = '\x08' then ['\\', 'b']
  else if c = '\t' then ['\\', 't']
  else if c = '\n' then ['\\', 'n']
  else if c = '\x0c' then ['\\', 'f']
  else if c = '\r' then ['\\', 'r']
  else if c.toNat < 0x20 then
    ['\\', 'u', '0', '0', hexChar (c.toNat / 16), hexChar (c.toNat % 16)]
  else [c]

def renderString (s : String) : List Char := '"' :: (s.toList.flatMap escapeChar ++ ['"'])

def renderInt : Int → List Char
  | .ofNat n => Nat.toDigits 10 n
  | .negSucc n => '-' :: Nat.toDigits 10 (n + 1)

def renderDecimal : Decimal → List Char
  | .finite negative m e =>
    (if negative then ['-'] else []) ++ Nat.toDigits 10 m ++ 'e' :: renderInt e
  | .infinite false => "Infinity".toList
  | .infinite true => "-Infinity".toList
  | .notANumber => "NaN".toList

mutual

/-- A document whose items stand at `level + 1`. -/
def renderAt (layout : Layout) (level : Nat) : Json → List Char
  | .null => "null".toList
  | .bool true => "true".toList
  | .bool false => "false".toList
  | .int n => renderInt n
  | .decimal x => renderDecimal x
  | .str s => renderString s
  | .arr [] => ['[', ']']
  | .arr (x :: xs) =>
    '[' :: (layout.opening (level + 1) ++ renderAt layout (level + 1) x
      ++ renderItems layout (level + 1) xs ++ layout.closing level ++ [']'])
  | .obj [] => ['\x7b', '\x7d']
  | .obj ((k, x) :: ms) =>
    '\x7b' :: (layout.opening (level + 1) ++ renderString k ++ layout.colon
      ++ renderAt layout (level + 1) x ++ renderMembers layout (level + 1) ms
      ++ layout.closing level ++ ['\x7d'])

/-- The items after the first. -/
def renderItems (layout : Layout) (level : Nat) : List Json → List Char
  | [] => []
  | x :: xs => layout.separator level ++ renderAt layout level x ++ renderItems layout level xs

/-- The members after the first. -/
def renderMembers (layout : Layout) (level : Nat) : List (String × Json) → List Char
  | [] => []
  | (k, x) :: ms =>
    layout.separator level ++ renderString k ++ layout.colon ++ renderAt layout level x
      ++ renderMembers layout level ms

end

def render (layout : Layout) (j : Json) : String := String.ofList (renderAt layout 0 j)

end Json

end CatalogSchema
