import CatalogSchema.Validation.Issue

/-!
# Faults

What a step on the database, or around it, can end with in place of a result.
-/

namespace CatalogSchema

inductive FaultKind where
  /-- A value that cannot be worked with. -/
  | value
  /-- Of the operating system; the next six are special cases of it. -/
  | system
  | connection
  | timeout
  | missing
  | notFolder
  | isFolder
  | alreadyExists
  /-- Reported by the database. -/
  | database
  | runtime
  /-- More is nested than can be followed. -/
  | nesting
  /-- The task was asked to stop. -/
  | cancelled
  deriving DecidableEq, Repr

namespace FaultKind

/-- A fault to expect when working with a database, as opposed to a defect or a request to stop. -/
def isExpected : FaultKind → Bool
  | runtime | nesting | cancelled => false
  | _ => true

end FaultKind

inductive Fault where
  | raised (kind : FaultKind) (message : String)
  /-- A document of the named kind has issues. -/
  | invalid (model : String) (issues : List Issue)
  deriving DecidableEq, Repr

namespace Fault

/-- The fault of a task that is asked to stop. -/
def cancellation : Fault := .raised .cancelled ""

/-- How many issues a document has. -/
def headline (model : String) (issues : List Issue) : String :=
  let noun := if issues.length = 1 then "error" else "errors"
  s!"{issues.length} validation {noun} for {model}"

def message : Fault → String
  | raised _ message => message
  | invalid model issues => headline model issues

def isCancellation : Fault → Bool
  | raised .cancelled _ => true
  | _ => false

def isExpected : Fault → Bool
  | raised kind _ => kind.isExpected
  | invalid _ _ => true

end Fault

/-- A value that was read, or the fault of a document that has issues. -/
def Checked.orFault {α : Type _} (model : String) : Checked α → Except Fault α
  | .ok a => .ok a
  | .bad issues => .error (.invalid model issues)

end CatalogSchema
