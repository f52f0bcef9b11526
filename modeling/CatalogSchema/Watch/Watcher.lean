import CatalogSchema.Watch.Stage

/-!
# The watcher

The watcher keeps a watch going: when one is lost it waits a while and starts the next. It stops when a
watch ends by cancellation, or when its wait is interrupted. `Watcher.step` is one step, for any
outcome of the call that is waited for; `rank_step_lt` bounds the steps up to the next wait.
-/

namespace CatalogSchema

/-- Times in seconds. -/
structure WatchSettings where
  /-- Between two pings. -/
  interval : Rat
  /-- Between a lost watch and the next. -/
  delay : Rat
  deriving DecidableEq, Repr

def WatchSettings.default : WatchSettings := ⟨5, 5⟩

inductive Watcher where
  | watching (stage : WatchStage)
  | backingOff
  | stopped (cause : Fault)
  deriving DecidableEq, Repr

namespace Watcher

def start : Watcher := watching .acquiring

/-- What follows a watch that ended, with a fault or without. -/
def afterWatch : Option Fault → Watcher
  | none => start
  | some f => if f.isCancellation then stopped f else backingOff

/-- What is logged when a watch ended. -/
def lossRecords : Option Fault → List Log.Record
  | none => []
  | some f =>
    if f.isCancellation then [] else [Log.Logger.router.error s!"Schema watch lost: {f.message}"]

/-- The call that is waited for. -/
def call? (settings : WatchSettings) : Watcher → Option Call
  | watching stage => some (stage.call settings.interval)
  | backingOff => some (.sleep settings.delay)
  | stopped _ => none

/-- The callback that is passed on with the call. -/
def callback? {κ : Type} (onChange : κ) : Watcher → Option κ
  | watching stage => stage.callback? onChange
  | _ => none

def step : Watcher → Option Fault → Watcher × List Log.Record
  | watching stage, outcome =>
    match stage.next outcome with
    | .ok stage' => (watching stage', stage.records outcome)
    | .error f => (afterWatch (some f), stage.records outcome ++ lossRecords (some f))
  | backingOff, none => (start, [])
  | backingOff, some f => (stopped f, [])
  | stopped cause, _ => (stopped cause, [])

/-- Waiting for the clock. -/
def isWaiting : Watcher → Bool
  | watching .pausing | backingOff => true
  | _ => false

def isStopped : Watcher → Bool
  | stopped _ => true
  | _ => false

/-- Stopped because it was asked to. -/
def isCancelled : Watcher → Bool
  | stopped f => f.isCancellation
  | _ => false

/-- A bound on the calls up to the next wait. -/
def rank : Watcher → Nat
  | watching stage => stage.rank
  | _ => 0

@[simp] theorem rank_afterWatch_some (f : Fault) : (afterWatch (some f)).rank = 0 := by
  cases h : f.isCancellation <;> simp [afterWatch, h, rank]

theorem rank_step_lt (w : Watcher) (outcome : Option Fault) (hw : w.isWaiting = false)
    (hs : w.isStopped = false) : (w.step outcome).1.rank < w.rank := by
  match w, outcome with
  | watching .acquiring, none | watching .installing, none | watching .installing, some _
  | watching .subscribing, none | watching .subscribing, some _ | watching .pinging, none
  | watching .pinging, some _ | watching (.unsubscribing _), _ =>
    simp [step, WatchStage.next, rank, WatchStage.rank]
  | watching .acquiring, some _ | watching (.discarding _), _ =>
    simp [step, WatchStage.next]
    simp [rank, WatchStage.rank]
  | watching .pausing, _ | backingOff, _ => simp [isWaiting] at hw
  | stopped _, _ => simp [isStopped] at hs

/-- Make calls until the watcher waits for the clock or has stopped, at most `fuel` of them. -/
def settleFor (settings : WatchSettings) : (fuel : Nat) → Watcher → Session Watcher
  | 0, w => return w
  | fuel + 1, w =>
    if w.isWaiting then return w
    else
      match w.call? settings with
      | none => return w
      | some c => do
        let outcome ← Session.outcome? c
        let (w, records) := w.step outcome
        Session.log records
        settleFor settings fuel w

/-- Make calls until the watcher waits for the clock or has stopped. -/
def settle (settings : WatchSettings) (w : Watcher) : Session Watcher :=
  settleFor settings w.rank w

/-- The watches of a watcher when they end as the outcomes say and the last one is cancelled: how often
the watcher waited in between, and what was logged. -/
structure History where
  watches : Nat
  waits : Nat
  records : List Log.Record
  cause : Fault
  deriving DecidableEq, Repr

/-- Go through the watches of a watcher. -/
def history : List (Option Fault) → History
  | [] => ⟨1, 0, [], .cancellation⟩
  | outcome :: rest =>
    match afterWatch outcome with
    | stopped cause => ⟨1, 0, lossRecords outcome, cause⟩
    | backingOff =>
      let h := history rest
      ⟨h.watches + 1, h.waits + 1, lossRecords outcome ++ h.records, h.cause⟩
    | watching _ =>
      let h := history rest
      ⟨h.watches + 1, h.waits, lossRecords outcome ++ h.records, h.cause⟩

end Watcher

end CatalogSchema
