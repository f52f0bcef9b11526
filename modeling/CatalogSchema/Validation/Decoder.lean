import CatalogSchema.Json.Binary64
import CatalogSchema.Json.Parser
import CatalogSchema.OrderedMap
import CatalogSchema.Validation.IntegerText
import CatalogSchema.Validation.Issue

/-!
# Decoding JSON into typed values

A decoder takes a document to a value or to all issues in it. Integers and flags are read leniently:
`Decoder.int` and `Decoder.flag` also accept the texts and numbers that stand for one; texts are
never converted. A record is read member by member in the order of its fields (`Decoder.field`,
`Decoder.fieldOr`), and members that no field names are ignored.
-/

namespace CatalogSchema

universe u

abbrev Decoder (α : Type u) : Type u := Json → Checked α

namespace Decoder

/-! ## Integers -/

/-- An integer that a text stands for. -/
def integerOfText (s : String) : Checked Int :=
  match IntegerText.read s with
  | .integer n => .ok n
  | .malformed => .fail .integerText
  | .tooLong => .fail .integerRange

def int : Decoder Int
  | .int n => .ok n
  | .bool b => .ok (if b then 1 else 0)
  | .decimal x =>
    match x.toWhole with
    | .integer n => .ok n
    | .fractional => .fail .fractionalInteger
    | .outOfRange => .fail .integerRange
    | .notFinite => .fail .infiniteInteger
  | .str s => integerOfText s
  | _ => .fail .notInteger

/-! ## Flags, texts, words -/

def flagOfText (s : String) : Option Bool :=
  let word := String.ofList (s.toList.map Char.toLower)
  if word ∈ ["1", "t", "y", "on", "yes", "true"] then some true
  else if word ∈ ["0", "f", "n", "no", "off", "false"] then some false
  else none

def flagOfInt (n : Int) : Option Bool :=
  if n = 0 then some false else if n = 1 then some true else none

def orFlagText : Option Bool → Checked Bool
  | some b => .ok b
  | none => .fail .flagText

def flag : Decoder Bool
  | .bool b => .ok b
  | .str s => orFlagText (flagOfText s)
  | .int n =>
    if -(Decimal.wordBound : Int) ≤ n ∧ n < Decimal.wordBound then orFlagText (flagOfInt n)
    else .fail .notFlag
  | .decimal x =>
    match x.toWhole with
    | .integer n => orFlagText (flagOfInt n)
    | _ => .fail .notFlag
  | _ => .fail .notFlag

def text : Decoder String
  | .str s => .ok s
  | _ => .fail .notText

/-- A text that names a member of a finite type. -/
def member {α : Type u} (ofName? : String → Option α) : Decoder α
  | .str s =>
    match ofName? s with
    | some a => .ok a
    | none => .fail .notMember
  | _ => .fail .notMember

/-- The one text that is allowed. -/
def literal (word : String) : Decoder Unit
  | .str s => if s = word then .ok () else .fail .notLiteral
  | _ => .fail .notLiteral

def nullable {α : Type u} (d : Decoder α) : Decoder (Option α)
  | .null => .ok none
  | j => some <$> d j

/-! ## Lists and mappings -/

/-- The items of a list from position `i` on. -/
def itemsFrom {α : Type u} (d : Decoder α) : Nat → List Json → Checked (List α)
  | _, [] => .ok []
  | i, j :: js => List.cons <$> (d j).within (.index i) <*> itemsFrom d (i + 1) js

def listOr {α : Type u} (problem : Problem) (d : Decoder α) : Decoder (List α)
  | .arr js => itemsFrom d 0 js
  | _ => .fail problem

def list {α : Type u} (d : Decoder α) : Decoder (List α) := listOr .notList d

def tuple {α : Type u} (d : Decoder α) : Decoder (List α) := listOr .notTuple d

/-- The entries of a mapping. -/
def entries {κ ν : Type u} (key : String → Checked κ) (d : Decoder ν) :
    List (String × Json) → Checked (List (κ × ν))
  | [] => .ok []
  | (k, j) :: rest =>
    (fun a b es => (a, b) :: es) <$> ((key k).within .itself).within (.key k)
      <*> (d j).within (.key k) <*> entries key d rest

/-- A mapping whose keys are read by `key`; equal keys make one entry, with the last value. -/
def mappingBy {κ ν : Type u} [DecidableEq κ] (key : String → Checked κ) (d : Decoder ν) :
    Decoder (OrderedMap κ ν)
  | .obj ms => OrderedMap.ofList <$> entries key d ms
  | _ => .fail .notMapping

def mapping {ν : Type} (d : Decoder ν) : Decoder (OrderedMap String ν) := mappingBy .ok d

/-- A mapping whose keys are integer texts. -/
def integerMapping {ν : Type} (d : Decoder ν) : Decoder (OrderedMap Int ν) := mappingBy integerOfText d

/-! ## Records -/

/-- The two spellings of a field; the label counts when both are present. -/
structure FieldName where
  name : String
  label : String
  deriving DecidableEq, Repr

/-- A field with one spelling. -/
def FieldName.plain (name : String) : FieldName := ⟨name, name⟩

abbrev Members := List (String × Json)

/-- The member of a field, with the spelling that was found. -/
def find? (f : FieldName) (ms : Members) : Option (String × Json) :=
  match Json.lastMember? f.label ms with
  | some j => some (f.label, j)
  | none => (Json.lastMember? f.name ms).map fun j => (f.name, j)

/-- A required field. -/
def field {α : Type u} (f : FieldName) (d : Decoder α) (ms : Members) : Checked α :=
  match find? f ms with
  | some (key, j) => (d j).within (.key key)
  | none => .bad [⟨[.key f.label], .missing⟩]

/-- A field with a default. -/
def fieldOr {α : Type u} (f : FieldName) (d : Decoder α) (default : α) (ms : Members) : Checked α :=
  match find? f ms with
  | some (key, j) => (d j).within (.key key)
  | none => .ok default

/-- A record, read from its members. -/
def record {α : Type u} (read : Members → Checked α) : Decoder α
  | .obj ms => read ms
  | _ => .fail .notRecord

/-- Either of two forms; the second is preferred, and the issues of both are given when neither fits. -/
def either {α : Type u} (name₁ : String) (d₁ : Decoder α) (name₂ : String) (d₂ : Decoder α) :
    Decoder α := fun j =>
  match d₂ j with
  | .ok a => .ok a
  | .bad issues₂ =>
    match d₁ j with
    | .ok a => .ok a
    | .bad issues₁ =>
      .bad (issues₁.map (Issue.within (.form name₁)) ++ issues₂.map (Issue.within (.form name₂)))

/-- Decode a whole text. -/
def ofText {α : Type u} (d : Decoder α) (text : String) : Checked α :=
  match Json.parse text with
  | some j => d j
  | none => .fail .notJson

end Decoder

end CatalogSchema
