import CatalogSchema.Database.Call
import CatalogSchema.Database.Fault
import CatalogSchema.Log.Record

/-!
# Sessions

A session makes calls and logs records, and ends with a value or a fault. It runs against a `Backend`,
which says how each call ends; every choice of faults is a backend. What was done is kept in the
`Journal`, whether the session succeeds or not.
-/

namespace CatalogSchema

/-- The other side of a session. -/
structure Backend where
  /-- What the introspection query returns. -/
  answer : Option String
  /-- The fault that a call ends with, given the calls made before it. -/
  fault? : (earlier : List Call) → Call → Option Fault

namespace Backend

/-- A fault that one call of an operation is to end with: the first one has occurrence 1. -/
structure Plan where
  operation : Operation
  fault : Fault
  occurrence : Nat
  deriving DecidableEq, Repr

/-- How often calls of an operation were made. -/
def count (operation : Operation) (calls : List Call) : Nat :=
  calls.countP (·.operation = operation)

def Plan.applies (earlier : List Call) (c : Call) (p : Plan) : Bool :=
  p.operation = c.operation && p.occurrence = count c.operation earlier + 1

/-- The backend on which just the planned calls fail. -/
def planned (answer : Option String) (plans : List Plan) : Backend where
  answer := answer
  fault? earlier c := (plans.find? (Plan.applies earlier c)).map Plan.fault

end Backend

structure Journal where
  calls : List Call
  records : List Log.Record
  deriving DecidableEq, Repr

def Journal.empty : Journal := ⟨[], []⟩

abbrev Session := ReaderT Backend (ExceptT Fault (StateM Journal))

namespace Session

variable {α : Type}

/-- Run a session on a backend and go on with the journal. -/
def runOn (b : Backend) (j : Journal) (x : Session α) : Except Fault α × Journal := x b j

def log (records : List Log.Record) : Session Unit :=
  modify fun j => { j with records := j.records ++ records }

/-- Make a call; it ends with the fault that the backend has for it. -/
def perform (c : Call) : Session Unit := fun b j =>
  (match b.fault? j.calls c with
    | none => .ok ()
    | some f => .error f, { j with calls := j.calls ++ [c] })

/-- Run a session to its end, be it a value or a fault. -/
def attempt (x : Session α) : Session (Except Fault α) := fun b j =>
  let (r, j) := x b j
  (.ok r, j)

/-- Make a call and tell the fault it ended with. -/
def outcome? (c : Call) : Session (Option Fault) := do
  match ← attempt (perform c) with
  | .ok () => return none
  | .error f => return some f

/-- End as a result says. -/
def conclude : Except Fault α → Session α
  | .ok a => pure a
  | .error f => throw f

/-- Run the body and then, according to how it ended, one of two calls; a fault of the call replaces
the result of the body. -/
def bracket (body : Session α) (onSuccess onFault : Call) : Session α := do
  let r ← attempt body
  match r with
  | .ok _ => perform onSuccess
  | .error _ => perform onFault
  conclude r

/-- On a connection of its own, which is closed in the end. -/
def connected (uri : String) (body : Session α) : Session α := do
  perform (.connect uri)
  bracket body .close .close

/-- On a connection of the pool, which is handed back in the end. -/
def pooled (body : Session α) : Session α := do
  perform .acquire
  bracket body .release .discard

/-- Inside a transaction, committed or rolled back in the end. -/
def transaction (body : Session α) : Session α := do
  perform .begin
  bracket body .commit .rollback

/-- Log how the body ended, under the name of a logger; a cancellation is nothing to report. -/
def timed (logger operation : String) (body : Session α) : Session α := do
  let r ← attempt body
  match r with
  | .ok _ => log [Log.timing logger operation none]
  | .error f =>
    log (if f.isCancellation then [] else [Log.timing logger operation (some f.message)])
  conclude r

/-- The answer of the introspection query. -/
def fetch : Session (Option String) := do
  perform .fetch
  return (← read).answer

/-! ## Runs -/

theorem runOn_pure (b : Backend) (j : Journal) (a : α) : (pure a : Session α).runOn b j = (.ok a, j) :=
  rfl

theorem runOn_bind {β : Type} (b : Backend) (j : Journal) (x : Session α) (f : α → Session β) :
    (x >>= f).runOn b j =
      match x.runOn b j with
      | (.ok a, j) => (f a).runOn b j
      | (.error e, j) => (.error e, j) := by
  show (x >>= f) b j = _
  simp only [runOn]
  cases h : x b j with
  | mk r j' => cases r <;> simp [bind, ReaderT.bind, ExceptT.bind, ExceptT.mk, StateT.bind, h] <;> rfl

theorem runOn_log (b : Backend) (j : Journal) (records : List Log.Record) :
    (log records).runOn b j = (.ok (), { j with records := j.records ++ records }) := rfl

theorem runOn_perform (b : Backend) (j : Journal) (c : Call) :
    (perform c).runOn b j =
      (match b.fault? j.calls c with
        | none => .ok ()
        | some f => .error f, { j with calls := j.calls ++ [c] }) := rfl

theorem runOn_attempt (b : Backend) (j : Journal) (x : Session α) :
    (attempt x).runOn b j = (.ok (x.runOn b j).1, (x.runOn b j).2) := rfl

theorem runOn_conclude (b : Backend) (j : Journal) (r : Except Fault α) :
    (conclude r).runOn b j = (r, j) := by
  cases r <;> rfl

end Session

end CatalogSchema
