import CatalogSchema.Json.Basic

/-!
# Reading JSON

`Json.parse` reads a whole text. Beside the grammar of the standard it takes the three number words
`NaN`, `Infinity` and `-Infinity`. It refuses a text in which more than `maxDepth` non-empty arrays and
objects are nested, or in which the whole part of a number has more than `maxWholeDigits` digits. What is
left to read is always a list of characters.
-/

namespace CatalogSchema

namespace Json

/-- The deepest nesting of non-empty arrays and objects. -/
def maxDepth : Nat := 200

def isBlank (c : Char) : Bool := c = ' ' || c = '\t' || c = '\n' || c = '\r'

def skipBlank (cs : List Char) : List Char := cs.dropWhile isBlank

/-! ## Strings -/

/-- Where a string stands between characters. A high surrogate waits for its low one. -/
inductive StringState where
  | plain
  | escape (high : Option Nat)
  | hex (left value : Nat) (high : Option Nat)
  | highSurrogate (high : Nat)
  deriving DecidableEq, Repr

def hexDigit? (c : Char) : Option Nat :=
  if '0' ≤ c ∧ c ≤ '9' then some (c.toNat - '0'.toNat)
  else if 'a' ≤ c ∧ c ≤ 'f' then some (c.toNat - 'a'.toNat + 10)
  else if 'A' ≤ c ∧ c ≤ 'F' then some (c.toNat - 'A'.toNat + 10)
  else none

/-- The character that a letter after a backslash stands for. -/
def simpleEscape? : Char → Option Char
  | '"' => some '"'
  | '\\' => some '\\'
  | '/' => some '/'
  | 'b' => some '\x08'
  | 'f' => some '\x0c'
  | 'n' => some '\n'
  | 'r' => some '\r'
  | 't' => some '\t'
  | _ => none

/-- A step inside a string: the next state and the character it completes. -/
inductive StringStep where
  | go (next : StringState)
  | push (c : Char)
  | close
  | refuse
  deriving DecidableEq, Repr

def isHighSurrogate (n : Nat) : Bool := 0xD800 ≤ n && n < 0xDC00

def isLowSurrogate (n : Nat) : Bool := 0xDC00 ≤ n && n < 0xE000

/-- A complete group of four hexadecimal digits. -/
def codeUnit (value : Nat) : Option Nat → StringStep
  | none =>
    if isHighSurrogate value then .go (.highSurrogate value)
    else if isLowSurrogate value then .refuse
    else .push (Char.ofNat value)
  | some high =>
    if isLowSurrogate value then
      .push (Char.ofNat (0x10000 + (high - 0xD800) * 0x400 + (value - 0xDC00)))
    else .refuse

def StringState.step : StringState → Char → StringStep
  | .plain, c =>
    if c = '"' then .close
    else if c = '\\' then .go (.escape none)
    else if c.toNat < 0x20 then .refuse
    else .push c
  | .escape none, c =>
    if c = 'u' then .go (.hex 3 0 none)
    else match simpleEscape? c with
      | some d => .push d
      | none => .refuse
  | .escape (some high), c => if c = 'u' then .go (.hex 3 0 (some high)) else .refuse
  | .highSurrogate high, c => if c = '\\' then .go (.escape (some high)) else .refuse
  | .hex left value high, c =>
    match hexDigit? c with
    | none => .refuse
    | some d =>
      match left with
      | 0 => codeUnit (16 * value + d) high
      | left + 1 => .go (.hex left (16 * value + d) high)

/-- The rest of a string after its opening quote; `done` holds its characters in reverse. -/
def stringFrom : StringState → List Char → List Char → Option (String × List Char)
  | _, _, [] => none
  | state, done, c :: rest =>
    match state.step c with
    | .go next => stringFrom next done rest
    | .push d => stringFrom .plain (d :: done) rest
    | .close => some (String.ofList done.reverse, rest)
    | .refuse => none

def string (cs : List Char) : Option (String × List Char) := stringFrom .plain [] cs

/-! ## Numbers -/

def digits (cs : List Char) : List Char × List Char := cs.span Char.isDigit

/-- The most digits of the whole part of a number. -/
def maxWholeDigits : Nat := 4300

def isTooLong (digits : List Char) : Bool := maxWholeDigits < digits.length

/-- The digits after a point; none when there is no point, and a refusal when no digit follows it. -/
def fraction : List Char → Option (Option (List Char) × List Char)
  | '.' :: rest =>
    match digits rest with
    | ([], _) => none
    | (ds, rest) => some (some ds, rest)
  | rest => some (none, rest)

/-- The sign of an exponent. -/
def exponentSign : List Char → Bool × List Char
  | '-' :: rest => (true, rest)
  | '+' :: rest => (false, rest)
  | rest => (false, rest)

def exponent : List Char → Option (Option Int × List Char)
  | [] => some (none, [])
  | c :: rest =>
    if c = 'e' ∨ c = 'E' then
      let (negative, rest) := exponentSign rest
      match digits rest with
      | ([], _) => none
      | (ds, rest) => some (some (signed negative (Nat.ofDigitChars 10 ds 0)), rest)
    else some (none, c :: rest)

/-- A number after its sign. -/
def unsignedNumber (negative : Bool) (cs : List Char) : Option (Json × List Char) :=
  match digits cs with
  | ([], _) =>
    match cs with
    | 'I' :: 'n' :: 'f' :: 'i' :: 'n' :: 'i' :: 't' :: 'y' :: rest =>
      some (.decimal (.infinite negative), rest)
    | _ => none
  | ('0' :: _ :: _, _) => none
  | (ds, rest) => do
    guard (! isTooLong ds)
    let (fs, rest) ← fraction rest
    let (e, rest) ← exponent rest
    match fs, e with
    | none, none => some (.int (signed negative (Nat.ofDigitChars 10 ds 0)), rest)
    | fs, e =>
      let fs := fs.getD []
      let m := Nat.ofDigitChars 10 (ds ++ fs) 0
      some (.decimal (.finite negative m (e.getD 0 - fs.length)), rest)

def number : List Char → Option (Json × List Char)
  | '-' :: rest => unsignedNumber true rest
  | rest => unsignedNumber false rest

/-! ## Values -/

mutual

/-- A value; `depth` more non-empty arrays and objects may be opened. -/
def value : (fuel depth : Nat) → List Char → Option (Json × List Char)
  | 0, _, _ => none
  | fuel + 1, depth, cs =>
    match cs with
    | 'n' :: 'u' :: 'l' :: 'l' :: rest => some (.null, rest)
    | 't' :: 'r' :: 'u' :: 'e' :: rest => some (.bool true, rest)
    | 'f' :: 'a' :: 'l' :: 's' :: 'e' :: rest => some (.bool false, rest)
    | 'N' :: 'a' :: 'N' :: rest => some (.decimal .notANumber, rest)
    | '"' :: rest => (string rest).map fun (s, rest) => (.str s, rest)
    | '[' :: rest =>
      match skipBlank rest, depth with
      | ']' :: rest, _ => some (.arr [], rest)
      | _, 0 => none
      | rest, depth + 1 => (items fuel depth rest).map fun (xs, rest) => (.arr xs, rest)
    | '\x7b' :: rest =>
      match skipBlank rest, depth with
      | '\x7d' :: rest, _ => some (.obj [], rest)
      | _, 0 => none
      | rest, depth + 1 => (members fuel depth rest).map fun (ms, rest) => (.obj ms, rest)
    | cs => number cs

/-- The items of an array up to its closing bracket. -/
def items : (fuel depth : Nat) → List Char → Option (List Json × List Char)
  | 0, _, _ => none
  | fuel + 1, depth, cs =>
    match value fuel depth cs with
    | none => none
    | some (x, rest) =>
      match skipBlank rest with
      | ',' :: rest => (items fuel depth (skipBlank rest)).map fun (xs, rest) => (x :: xs, rest)
      | ']' :: rest => some ([x], rest)
      | _ => none

/-- The members of an object up to its closing brace. -/
def members : (fuel depth : Nat) → List Char → Option (List (String × Json) × List Char)
  | 0, _, _ => none
  | fuel + 1, depth, cs =>
    match cs with
    | '"' :: rest =>
      match string rest with
      | none => none
      | some (key, rest) =>
        match skipBlank rest with
        | ':' :: rest =>
          match value fuel depth (skipBlank rest) with
          | none => none
          | some (x, rest) =>
            match skipBlank rest with
            | ',' :: rest =>
              (members fuel depth (skipBlank rest)).map fun (ms, rest) => ((key, x) :: ms, rest)
            | '\x7d' :: rest => some ([(key, x)], rest)
            | _ => none
        | _ => none
    | _ => none

end

/-- A whole text, nested at most `depth` deep. Two units of fuel for a character are enough. -/
def parseWithin (depth : Nat) (cs : List Char) : Option Json :=
  match value (2 * cs.length + 2) depth (skipBlank cs) with
  | some (j, rest) => if skipBlank rest = [] then some j else none
  | none => none

def parse (text : String) : Option Json := parseWithin maxDepth text.toList

end Json

end CatalogSchema
