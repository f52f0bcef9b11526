/-!
# Issues found in a document

Reading a document collects every issue, each with the path to the part that is wrong. `Checked` is
a value or the issues that stand in its way; combining two of them keeps the issues of both, the
left ones first.
-/

namespace CatalogSchema

/-- What is wrong with a part of a document. -/
inductive Problem where
  /-- The text is no document at all. -/
  | notJson
  | missing
  /-- A record is expected. -/
  | notRecord
  | notList
  | notMapping
  | notTuple
  | notText
  | notInteger
  /-- A text that does not spell an integer. -/
  | integerText
  /-- A number with a fraction where an integer is expected. -/
  | fractionalInteger
  | integerRange
  | infiniteInteger
  | notFlag
  /-- A text or number that stands for neither flag. -/
  | flagText
  | notMember
  | notLiteral
  /-- The record as a whole is refused. -/
  | refused (reason : String)
  deriving DecidableEq, Repr

/-- The word by which a report names the problem. -/
def Problem.code : Problem → String
  | notJson => "json_invalid"
  | missing => "missing"
  | notRecord => "model_type"
  | notList => "list_type"
  | notMapping => "dict_type"
  | notTuple => "tuple_type"
  | notText => "string_type"
  | notInteger => "int_type"
  | integerText => "int_parsing"
  | fractionalInteger => "int_from_float"
  | integerRange => "int_parsing_size"
  | infiniteInteger => "finite_number"
  | notFlag => "bool_type"
  | flagText => "bool_parsing"
  | notMember => "enum"
  | notLiteral => "literal_error"
  | refused reason => "Value error, " ++ reason

/-- One step of a path into a document. -/
inductive PathStep where
  /-- A member of a record or the value under a key of a mapping. -/
  | key (name : String)
  | index (i : Nat)
  /-- The key itself, after the step to its value. -/
  | itself
  /-- One of the readings of a part that may have several forms. -/
  | form (name : String)
  deriving DecidableEq, Repr

def PathStep.text : PathStep → String
  | key name => name
  | index i => toString i
  | itself => "[key]"
  | form name => name

structure Issue where
  path : List PathStep
  problem : Problem
  deriving DecidableEq, Repr

namespace Issue

/-- The issue as seen from one level further out. -/
def within (s : PathStep) (i : Issue) : Issue := { i with path := s :: i.path }

def location (i : Issue) : String :=
  if i.path = [] then "(root)" else ".".intercalate (i.path.map PathStep.text)

def text (i : Issue) : String := i.location ++ ": " ++ i.problem.code

/-- All issues on one line. -/
def report (issues : List Issue) : String := "; ".intercalate (issues.map text)

end Issue

/-- A value, or the issues that stand in its way. -/
inductive Checked (α : Type _) where
  | ok (a : α)
  | bad (issues : List Issue)
  deriving Repr

namespace Checked

universe u v

variable {α : Type u} {β : Type v}

def fail (p : Problem) : Checked α := .bad [⟨[], p⟩]

def map (f : α → β) : Checked α → Checked β
  | ok a => ok (f a)
  | bad issues => bad issues

/-- Apply a function that was read to an argument that was read. -/
def seq : Checked (α → β) → (Unit → Checked α) → Checked β
  | ok f, x => map f (x ())
  | bad issues, x =>
    match x () with
    | ok _ => bad issues
    | bad more => bad (issues ++ more)

instance : Applicative Checked where
  pure := ok
  map := map
  seq := seq

/-- Go on only when there is a value. -/
def andThen (f : α → Checked β) : Checked α → Checked β
  | ok a => f a
  | bad issues => bad issues

/-- The issues as seen from one level further out. -/
def within (s : PathStep) : Checked α → Checked α
  | ok a => ok a
  | bad issues => bad (issues.map (Issue.within s))

def toOption : Checked α → Option α
  | ok a => some a
  | bad _ => none

@[simp] theorem map_ok {α β : Type u} (f : α → β) (a : α) : f <$> (ok a : Checked α) = ok (f a) := rfl

@[simp] theorem ok_seq {α β : Type u} (f : α → β) (a : α) :
    (ok f : Checked (α → β)) <*> ok a = ok (f a) := rfl

@[simp] theorem within_ok (s : PathStep) (a : α) : within s (ok a) = ok a := rfl

@[simp] theorem andThen_ok (f : α → Checked β) (a : α) : andThen f (ok a) = f a := rfl

end Checked

end CatalogSchema
