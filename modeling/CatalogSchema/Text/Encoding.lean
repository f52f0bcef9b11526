import CatalogSchema.Text.Quoted

/-!
# Encodings

A file holds bytes, and an encoding says which bytes stand for a text. UTF-8 takes every text; an encoding
of one byte for each character takes only the characters below a limit. The message about a text that is
not taken, or about bytes that cannot be read, tells where the fault is.
-/

namespace CatalogSchema

/-- What a file holds. -/
structure FileContent where
  bytes : List UInt8
  deriving DecidableEq, Repr

namespace FileContent

def empty : FileContent := ⟨[]⟩

/-- A text in UTF-8. -/
def ofText (text : String) : FileContent := ⟨text.toUTF8.data.toList⟩

instance : Coe String FileContent := ⟨ofText⟩

end FileContent

/-- How texts stand in files; a failure is told by its message. -/
structure Encoding where
  encode : (text : String) → Except String FileContent
  decode : FileContent → Except String String

namespace Encoding

/-- Where `count` neighbours from `start` on are. -/
def position (start count : Nat) : String :=
  if count ≤ 1 then s!"position {start}" else s!"position {start}-{start + count - 1}"

/-- A byte as messages write it. -/
def shownByte (byte : UInt8) : String := "0x" ++ String.ofList (Text.hexDigits 2 byte.toNat)

/-- The message about `count` bytes that cannot be read, the first of them being `byte`. -/
def undecodable (name reason : String) (byte : UInt8) (start count : Nat) : String :=
  let what := if count ≤ 1 then s!"byte {shownByte byte}" else "bytes"
  s!"'{name}' codec can't decode {what} in {position start count}: {reason}"

/-! ## UTF-8 -/

/-- Inside a character of UTF-8: its first byte and the position of that, how many bytes of the character
were read and how many are left, and the bounds of the next one. -/
structure Unfinished where
  first : UInt8
  start : Nat
  read : Nat
  left : Nat
  low : Nat
  high : Nat

namespace Unfinished

/-- After the first byte of a character, if it can be one. -/
def ofFirst? (first : UInt8) (start : Nat) : Option Unfinished :=
  let n := first.toNat
  if n < 0x80 then some ⟨first, start, 1, 0, 0x80, 0xBF⟩
  else if n < 0xC2 then none
  else if n < 0xE0 then some ⟨first, start, 1, 1, 0x80, 0xBF⟩
  -- no character has a longer form than it needs, and none is half of a pair
  else if n < 0xF0 then
    some ⟨first, start, 1, 2, if n = 0xE0 then 0xA0 else 0x80, if n = 0xED then 0x9F else 0xBF⟩
  else if n < 0xF5 then
    some ⟨first, start, 1, 3, if n = 0xF0 then 0x90 else 0x80, if n = 0xF4 then 0x8F else 0xBF⟩
  else none

/-- After one more byte. -/
def next (u : Unfinished) : Unfinished :=
  { u with read := u.read + 1, left := u.left - 1, low := 0x80, high := 0xBF }

/-- The message that the character cannot be read. -/
def message (u : Unfinished) (reason : String) : String :=
  undecodable "utf-8" reason u.first u.start u.read

end Unfinished

/-- The message about the first bytes that are no UTF-8; `place` is the position of the next byte. -/
def utf8Message? : (within : Option Unfinished) → (place : Nat) → List UInt8 → Option String
  | within, _, [] => within.map (·.message "unexpected end of data")
  | none, place, byte :: rest =>
    match Unfinished.ofFirst? byte place with
    | none => some (undecodable "utf-8" "invalid start byte" byte place 1)
    | some u => utf8Message? (if u.left = 0 then none else some u) (place + 1) rest
  | some u, place, byte :: rest =>
    if u.low ≤ byte.toNat ∧ byte.toNat ≤ u.high then
      utf8Message? (if u.left = 1 then none else some u.next) (place + 1) rest
    else some (u.message "invalid continuation byte")

/-- The encoding that takes every text. -/
def utf8 : Encoding where
  encode text := .ok (.ofText text)
  decode content :=
    match String.fromUTF8? ⟨content.bytes.toArray⟩ with
    | some text => .ok text
    | none => .error ((utf8Message? none 0 content.bytes).getD "")

/-! ## One byte for each character -/

/-- The message about the first characters that are not below the limit. -/
def unencodable (name : String) (limit : Nat) (cs : List Char) : String :=
  let start := (cs.takeWhile (·.toNat < limit)).length
  let run := (cs.drop start).takeWhile (limit ≤ ·.toNat)
  let what := match run with
    | [c] => s!"character '{String.ofList (Text.escapeHidden c)}'"
    | _ => "characters"
  s!"'{name}' codec can't encode {what} in {position start run.length}: " ++
    s!"ordinal not in range({limit})"

/-- The encoding of the characters below a limit by bytes of the same number. -/
def singleByte (name : String) (limit : Nat) : Encoding where
  encode text :=
    if text.toList.all (·.toNat < limit) then .ok ⟨text.toList.map fun c => UInt8.ofNat c.toNat⟩
    else .error (unencodable name limit text.toList)
  decode content :=
    match content.bytes.find? (limit ≤ ·.toNat) with
    | none => .ok (String.ofList (content.bytes.map fun b => Char.ofNat b.toNat))
    | some byte =>
      .error (undecodable name s!"ordinal not in range({limit})" byte
        (content.bytes.takeWhile (·.toNat < limit)).length 1)

def ascii : Encoding := singleByte "ascii" 128

def latin1 : Encoding := singleByte "latin-1" 256

end Encoding

end CatalogSchema
