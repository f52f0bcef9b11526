import CatalogSchema.Proofs.Database.Session
import CatalogSchema.Watch.Watcher

/-!
# Runs of a watcher

A script says how the calls of a watcher end, one after the other; a watcher that has stopped ignores what is
left of it. `Watcher.run` is the watcher after a script and `Watcher.calls` are the calls it has made by then.
What the watcher does inside a session is a run whose script comes from the backend
(`exists_runOn_settleFor`), and `Watcher.history` tells what a run came to from how its watches ended
(`history_ends`).
-/

namespace CatalogSchema

namespace Watcher

variable {settings : WatchSettings}

/-- The watcher after calls that ended as the script says. -/
def run (w : Watcher) (script : List (Option Fault)) : Watcher :=
  script.foldl (fun w outcome => (w.step outcome).1) w

/-- The calls of a run that have ended. -/
def endedCalls (settings : WatchSettings) : Watcher → List (Option Fault) → List Call
  | _, [] => []
  | w, outcome :: script => (w.call? settings).toList ++ endedCalls settings (w.step outcome).1 script

/-- The calls of a run, with the one that is waited for. -/
def calls (settings : WatchSettings) (w : Watcher) (script : List (Option Fault)) : List Call :=
  w.endedCalls settings script ++ ((w.run script).call? settings).toList

@[simp] theorem run_nil (w : Watcher) : w.run [] = w := rfl

@[simp] theorem run_cons (w : Watcher) (outcome : Option Fault) (script : List (Option Fault)) :
    w.run (outcome :: script) = (w.step outcome).1.run script := rfl

theorem call?_of_mem_endedCalls {w : Watcher} {script : List (Option Fault)} {c : Call}
    (h : c ∈ w.endedCalls settings script) : ∃ w' : Watcher, w'.call? settings = some c := by
  induction script generalizing w with
  | nil => cases h
  | cons outcome script ih =>
    rcases List.mem_append.1 h with h | h
    · exact ⟨w, Option.mem_toList.1 h⟩
    · exact ih h

theorem run_append (w : Watcher) (script more : List (Option Fault)) :
    w.run (script ++ more) = (w.run script).run more := List.foldl_append

theorem endedCalls_append (w : Watcher) (script more : List (Option Fault)) :
    w.endedCalls settings (script ++ more) =
      w.endedCalls settings script ++ (w.run script).endedCalls settings more := by
  induction script generalizing w with
  | nil => rfl
  | cons outcome script ih =>
    rw [List.cons_append, endedCalls, endedCalls, ih, List.append_assoc]
    rfl

theorem calls_append (w : Watcher) (script more : List (Option Fault)) :
    w.calls settings (script ++ more) =
      w.endedCalls settings script ++ (w.run script).calls settings more := by
  rw [calls, calls, endedCalls_append, run_append, List.append_assoc]

/-- The call that is waited for ends, and the run goes on from there. -/
theorem calls_append_cons (w : Watcher) (script more : List (Option Fault)) (outcome : Option Fault) :
    w.calls settings (script ++ outcome :: more) =
      w.calls settings script ++ ((w.run script).step outcome).1.calls settings more := by
  rw [calls_append, calls, calls, calls, endedCalls, run_cons]
  simp only [List.append_assoc]

theorem run_stopped (cause : Fault) (script : List (Option Fault)) :
    (stopped cause).run script = stopped cause := by
  induction script with
  | nil => rfl
  | cons outcome script ih => exact ih

theorem calls_stopped (cause : Fault) (script : List (Option Fault)) :
    (stopped cause).calls settings script = [] := by
  induction script with
  | nil => rfl
  | cons outcome script ih => exact ih

/-! ## Runs inside a session -/

open Session (runOn_bind runOn_log runOn_outcome? runOn_pure)

theorem runOn_settleFor_succ (settings : WatchSettings) (b : Backend) (j : Journal) (fuel : Nat)
    {w : Watcher} {c : Call}
    (hw : w.isWaiting = false) (hc : w.call? settings = some c) :
    (settleFor settings (fuel + 1) w).runOn b j =
      (settleFor settings fuel (w.step (b.fault? j.calls c)).1).runOn b
        ⟨j.calls ++ [c], j.records ++ (w.step (b.fault? j.calls c)).2⟩ := by
  rw [settleFor, hw, hc]
  simp only [Bool.false_eq_true, ↓reduceIte, runOn_bind, runOn_outcome?, runOn_log]

/-- Making calls until the watcher waits or has stopped is a run. -/
theorem exists_runOn_settleFor (settings : WatchSettings) (b : Backend) (j : Journal) (fuel : Nat)
    (w : Watcher) :
    ∃ script k, (settleFor settings fuel w).runOn b j = (.ok (w.run script), k) ∧
      k.calls = j.calls ++ w.endedCalls settings script := by
  induction fuel generalizing w j with
  | zero => exact ⟨[], j, rfl, (List.append_nil _).symm⟩
  | succ fuel ih =>
    cases hw : w.isWaiting with
    | true =>
      refine ⟨[], j, ?_, (List.append_nil _).symm⟩
      rw [settleFor, hw]
      rfl
    | false =>
      cases hc : w.call? settings with
      | none =>
        refine ⟨[], j, ?_, (List.append_nil _).symm⟩
        rw [settleFor, hw, hc]
        rfl
      | some c =>
        obtain ⟨script, k, hrun, hcalls⟩ := ih _ (w.step (b.fault? j.calls c)).1
        refine ⟨b.fault? j.calls c :: script, k, ?_, ?_⟩
        · rw [runOn_settleFor_succ settings b j fuel hw hc]
          exact hrun
        · rw [hcalls, endedCalls, hc]
          simp

/-! ## Histories -/

/-- What is logged in a run. -/
def records : Watcher → List (Option Fault) → List Log.Record
  | _, [] => []
  | w, outcome :: script => (w.step outcome).2 ++ records (w.step outcome).1 script

/-- How often a wait after a watch that was lost ends in a run. -/
def waits : Watcher → List (Option Fault) → Nat
  | _, [] => 0
  | w, outcome :: script => (if w = backingOff then 1 else 0) + waits (w.step outcome).1 script

/-- The fault that the watch ends with, if it ends with this step. -/
def end? : Watcher → Option Fault → Option Fault
  | watching stage, outcome =>
    match stage.next outcome with
    | .ok _ => none
    | .error f => some f
  | _, _ => none

/-- The faults that the watches of a run ended with. -/
def ends : Watcher → List (Option Fault) → List Fault
  | _, [] => []
  | w, outcome :: script => (w.end? outcome).toList ++ ends (w.step outcome).1 script

/-- A watcher that has stopped takes no part in what a run came to. -/
theorem ends_stopped (settings : WatchSettings) (f : Fault) (script : List (Option Fault)) :
    (stopped f).ends script = [] ∧ (stopped f).waits script = 0 ∧ (stopped f).records script = [] ∧
      (stopped f).endedCalls settings script = [] := by
  induction script with
  | nil => exact ⟨rfl, rfl, rfl, rfl⟩
  | cons outcome script ih => simpa [ends, waits, records, endedCalls, step, end?, call?] using ih

/-- No wait after a watch that was lost ends with a fault. -/
def WaitsWell (w : Watcher) (script : List (Option Fault)) : Prop :=
  ∀ earlier f later, script = earlier ++ some f :: later → w.run earlier ≠ backingOff

theorem WaitsWell.tail {w : Watcher} {outcome : Option Fault} {script : List (Option Fault)}
    (h : w.WaitsWell (outcome :: script)) : (w.step outcome).1.WaitsWell script :=
  fun earlier f later hsplit => h (outcome :: earlier) f later (congrArg (outcome :: ·) hsplit)

theorem filter_records_stage (stage : WatchStage) (outcome : Option Fault) :
    (stage.records outcome).filter (·.level = .error) = [] := by
  cases stage <;> cases outcome <;> rfl

theorem filter_lossRecords (outcome : Option Fault) :
    (lossRecords outcome).filter (·.level = .error) = lossRecords outcome := by
  cases outcome with
  | none => rfl
  | some f =>
    simp only [lossRecords]
    split <;> rfl

theorem ne_acquiring_of_next {stage stage' : WatchStage} {outcome : Option Fault}
    (h : stage.next outcome = .ok stage') : stage' ≠ .acquiring := by
  cases stage <;> cases outcome <;> cases h <;> simp

theorem count_acquire_call (settings : WatchSettings) (stage : WatchStage) :
    [stage.call settings.interval].count .acquire = if stage = .acquiring then 1 else 0 := by
  cases stage <;> rfl

/-- The history of a run from a watch on says what the run came to; a watch that was begun is counted. -/
def ComesTo (settings : WatchSettings) (stage : WatchStage) (script : List (Option Fault)) (cause : Fault) :
    Prop :=
  history (((watching stage).ends script).map some) =
    ⟨(if stage = .acquiring then 0 else 1) + ((watching stage).endedCalls settings script).count .acquire,
      (watching stage).waits script, ((watching stage).records script).filter (·.level = .error), cause⟩

/-- From the end of a watch on: the watcher has stopped, or it waits and begins the next watch. -/
theorem history_afterWatch (settings : WatchSettings) {f cause : Fault} {script : List (Option Fault)}
    (hstopped : (afterWatch (some f)).run script = stopped cause)
    (hwaits : (afterWatch (some f)).WaitsWell script)
    (hnext : ∀ rest, script = none :: rest → start.run rest = stopped cause → start.WaitsWell rest →
      ComesTo settings .acquiring rest cause) :
    history ((f :: (afterWatch (some f)).ends script).map some) =
      ⟨1 + ((afterWatch (some f)).endedCalls settings script).count .acquire,
        (afterWatch (some f)).waits script,
        lossRecords (some f) ++ ((afterWatch (some f)).records script).filter (·.level = .error), cause⟩ := by
  cases hf : f.isCancellation with
  | true =>
    have hafter : afterWatch (some f) = stopped f := by simp [afterWatch, hf]
    obtain ⟨hends, hnone, hrecords, hcalls⟩ := ends_stopped settings f script
    rw [hafter, run_stopped] at hstopped
    obtain rfl := stopped.inj hstopped
    rw [hafter, hends, hnone, hrecords, hcalls]
    simp [history, hafter, lossRecords, hf]
  | false =>
    have hafter : afterWatch (some f) = backingOff := by simp [afterWatch, hf]
    rw [hafter] at hstopped hwaits ⊢
    cases script with
    | nil => cases hstopped
    | cons outcome rest =>
      cases outcome with
      | some g => exact absurd rfl (hwaits [] g rest rfl)
      | none =>
        have hcalls : (backingOff.endedCalls settings (none :: rest)).count .acquire =
            (start.endedCalls settings rest).count .acquire := List.count_cons_of_ne (by simp)
        have hrest : history ((start.ends rest).map some) = _ := hnext rest rfl hstopped hwaits.tail
        rw [hcalls]
        show history (some f :: (start.ends rest).map some) = _
        rw [history, hafter, hrest]
        simp [waits, records, step, Nat.add_comm, start]

theorem comesTo (settings : WatchSettings) (stage : WatchStage) (script : List (Option Fault)) {cause : Fault}
    (hstopped : (watching stage).run script = stopped cause) (hwaits : (watching stage).WaitsWell script) :
    ComesTo settings stage script cause := by
  -- the run goes on in the same watch, or two steps later in the next one
  induction h : script.length using Nat.strongRecOn generalizing stage script with
  | ind length ih =>
    subst h
    cases script with
    | nil => cases hstopped
    | cons outcome rest =>
      have htail := hwaits.tail
      have hcalls : ((watching stage).endedCalls settings (outcome :: rest)).count .acquire =
          (if stage = .acquiring then 1 else 0) +
            (((watching stage).step outcome).1.endedCalls settings rest).count .acquire := by
        rw [← count_acquire_call settings stage, ← List.count_append]
        rfl
      have hbegun : (if stage = .acquiring then 0 else 1) + (if stage = .acquiring then 1 else 0) = 1 := by
        split <;> rfl
      rw [ComesTo, hcalls, ← Nat.add_assoc, hbegun]
      cases hnext : stage.next outcome with
      | ok stage' =>
        have hend : (watching stage).end? outcome = none := by simp only [end?, hnext]
        have hstep : (watching stage).step outcome = (watching stage', stage.records outcome) := by
          simp only [step, hnext]
        rw [hstep] at htail
        rw [run_cons, hstep] at hstopped
        have hrest := ih _ (Nat.lt_succ_self _) stage' rest hstopped htail rfl
        rw [ComesTo, if_neg (ne_acquiring_of_next hnext)] at hrest
        simp only [ends, waits, records, hend, hstep, Option.toList_none, List.nil_append, List.filter_append,
          filter_records_stage]
        rw [hrest]
        simp
      | error f =>
        have hend : (watching stage).end? outcome = some f := by simp only [end?, hnext]
        have hstep : (watching stage).step outcome =
            (afterWatch (some f), stage.records outcome ++ lossRecords (some f)) := by
          simp only [step, hnext]
        rw [hstep] at htail
        rw [run_cons, hstep] at hstopped
        have hrest := history_afterWatch settings hstopped htail fun later hlater hrun hwell =>
          ih _ (by rw [hlater]; exact Nat.lt_succ_of_lt (Nat.lt_succ_self _)) .acquiring later hrun hwell rfl
        simp only [ends, waits, records, hend, hstep, Option.toList_some, List.filter_append,
          filter_records_stage, List.singleton_append, List.nil_append, filter_lossRecords]
        rw [hrest]
        simp

/-- What a run came to that was stopped in a watch, from how its watches ended. -/
theorem history_ends (settings : WatchSettings) (script : List (Option Fault)) {cause : Fault}
    (hstopped : start.run script = stopped cause) (hwaits : start.WaitsWell script) :
    history ((start.ends script).map some) =
      ⟨(start.endedCalls settings script).count .acquire, start.waits script,
        (start.records script).filter (·.level = .error), cause⟩ := by
  have h : history ((start.ends script).map some) = _ := comesTo settings .acquiring script hstopped hwaits
  rw [h, if_pos rfl, Nat.zero_add]
  rfl

end Watcher

end CatalogSchema
