import CatalogSchema.Watch.Watcher

/-!
# The task of a watcher

A watcher runs in a task of its own, which is created and asked to stop by others without a step being
taken. It begins with the first step that the task takes. A task that was asked to stop is interrupted by its
next step, wherever the watcher is; before its first step it stops without having made a call.
-/

namespace CatalogSchema

structure WatchTask where
  watcher : Watcher
  /-- Whether the first step was taken. -/
  begun : Bool
  /-- Whether the next step is an interruption. -/
  asked : Bool
  deriving DecidableEq, Repr

namespace WatchTask

/-- A task before its first step. -/
def created : WatchTask := ⟨.start, false, false⟩

/-- A task whose watcher has come thus far. -/
def running (w : Watcher) : WatchTask := ⟨w, true, false⟩

/-- Ask the task to stop; one that has stopped is left alone. -/
def ask (t : WatchTask) : WatchTask := { t with asked := t.asked || !t.watcher.isStopped }

/-- One step; `outcome` is how the call ended that the watcher waits for. -/
def step (t : WatchTask) (outcome : Option Fault) : WatchTask × List Log.Record :=
  if t.asked then ((t.watcher.step (some .cancellation)).map running id)
  else if t.begun then (t.watcher.step outcome).map running id
  else (running t.watcher, [])

/-- Let the task go on until its watcher waits for the clock or has stopped. -/
def settle (settings : WatchSettings) (t : WatchTask) : Session WatchTask := do
  let (t, records) := if t.begun && !t.asked then (t, []) else t.step none
  Session.log records
  return running (← t.watcher.settle settings)

end WatchTask

end CatalogSchema
