import CatalogSchema.Database.Session
import CatalogSchema.Watch.Trigger

/-!
# One watch

A watch holds one connection of the pool: it installs the triggers, listens on the channel, and then
pings the database again and again so that a lost connection is noticed. It has no end of its own. A
fault leads through the clean-up that is due at that point, and a fault of the clean-up takes the
place of the one that led there. `WatchStage.next` is one step.
-/

namespace CatalogSchema

/-- What a watch is waiting for. -/
inductive WatchStage where
  | acquiring
  | installing
  | subscribing
  | pausing
  | pinging
  | unsubscribing (cause : Fault)
  | discarding (cause : Fault)
  deriving DecidableEq, Repr

namespace WatchStage

/-- The call that is waited for; `interval` is the time between two pings, in seconds. -/
def call (interval : Rat) : WatchStage → Call
  | acquiring => .acquire
  | installing => .installTriggers
  | subscribing => .listen Watch.channel
  | pausing => .sleep interval
  | pinging => .ping
  | unsubscribing _ => .unlisten Watch.channel
  | discarding _ => .discard

/-- The callback that is passed on with the call, `onChange` being the one that the watch was given. -/
def callback? {κ : Type} (onChange : κ) : WatchStage → Option κ
  | subscribing => some onChange
  | unsubscribing _ => some onChange
  | _ => none

/-- The stage after the call ended, or the fault that the watch ends with. -/
def next : WatchStage → Option Fault → Except Fault WatchStage
  | acquiring, none => .ok installing
  | acquiring, some f => .error f
  | installing, none => .ok subscribing
  | installing, some f => .ok (discarding f)
  | subscribing, none => .ok pausing
  | subscribing, some f => .ok (discarding f)
  | pausing, none => .ok pinging
  | pausing, some f => .ok (unsubscribing f)
  | pinging, none => .ok pausing
  | pinging, some f => .ok (unsubscribing f)
  | unsubscribing cause, outcome => .ok (discarding (outcome.getD cause))
  | discarding cause, outcome => .error (outcome.getD cause)

/-- What is logged when the call ended. -/
def records : WatchStage → Option Fault → List Log.Record
  | subscribing, none =>
    [Log.Logger.watch.info s!"Watching schema changes on channel {Watch.channel}"]
  | _, _ => []

/-- A bound on the calls up to the next pause or the end. -/
def rank : WatchStage → Nat
  | acquiring => 4
  | installing => 3
  | subscribing => 2
  | pausing => 0
  | pinging => 3
  | unsubscribing _ => 2
  | discarding _ => 1

/-- Make the call and take the step. -/
def advance (interval : Rat) (stage : WatchStage) : Session (Except Fault WatchStage) := do
  let outcome ← Session.outcome? (stage.call interval)
  Session.log (stage.records outcome)
  return stage.next outcome

/-- At most `steps` steps; the fault that the watch ended with by then. -/
def run (interval : Rat) : (steps : Nat) → WatchStage → Session (Option Fault)
  | 0, _ => return none
  | steps + 1, stage => do
    match ← stage.advance interval with
    | .ok stage => run interval steps stage
    | .error f => return some f

end WatchStage

end CatalogSchema
