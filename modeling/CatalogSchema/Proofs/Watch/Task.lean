import CatalogSchema.Proofs.Watch.Run
import CatalogSchema.Watch.Task

/-!
# Steps of a task

Once it was asked to stop, the first thing that happens to a task is the interruption, and its watcher goes on
from there (`WatchTask.Obeys`). Inside a session a task takes steps whose outcomes come from the backend
(`WatchTask.exists_runOn_settle`).
-/

namespace CatalogSchema.WatchTask

/-- The task after steps with the outcomes of a script. -/
def run (t : WatchTask) (script : List (Option Fault)) : WatchTask :=
  script.foldl (fun t outcome => (t.step outcome).1) t

theorem run_cons (t : WatchTask) (outcome : Option Fault) (script : List (Option Fault)) :
    t.run (outcome :: script) = (t.step outcome).1.run script := rfl

theorem step_running (w : Watcher) (outcome : Option Fault) :
    ((running w).step outcome).1 = running (w.step outcome).1 := rfl

theorem run_running (w : Watcher) (script : List (Option Fault)) :
    (running w).run script = running (w.run script) := by
  induction script generalizing w with
  | nil => rfl
  | cons outcome script ih => exact ih _

/-- What may become of a task that is asked to stop. -/
def Obeys (t t' : WatchTask) : Prop :=
  t' = t.ask ∨ ∃ script, t' = running (t.watcher.run (some .cancellation :: script))

theorem Obeys.step {t t' : WatchTask} (h : t.Obeys t') (outcome : Option Fault) :
    t.Obeys (t'.step outcome).1 := by
  rcases h with rfl | ⟨script, rfl⟩
  · obtain ⟨w, begun, asked⟩ := t
    refine .inr ⟨[], ?_⟩
    cases w with
    | stopped cause => cases begun <;> cases asked <;> rfl
    | watching stage => cases asked <;> rfl
    | backingOff => cases asked <;> rfl
  · refine .inr ⟨script ++ [outcome], ?_⟩
    rw [step_running, ← List.cons_append, Watcher.run_append]
    rfl

theorem exists_runOn_settle (settings : WatchSettings) (b : Backend) (j : Journal) (t : WatchTask) :
    ∃ script k made, (t.settle settings).runOn b j = (.ok (t.run script), k) ∧
      k.calls = j.calls ++ made ∧ ∀ c ∈ made, ∃ w : Watcher, w.call? settings = some c := by
  have hsettle (w : Watcher) (records : List Log.Record) : ∃ script k made,
      (do Session.log records; return running (← w.settle settings) : Session WatchTask).runOn b j =
          (.ok (running (w.run script)), k) ∧
        k.calls = j.calls ++ made ∧ ∀ c ∈ made, ∃ w : Watcher, w.call? settings = some c := by
    obtain ⟨script, k, hrun, hcalls⟩ := Watcher.exists_runOn_settleFor settings b
      { j with records := j.records ++ records } w.rank w
    refine ⟨script, k, _, ?_, hcalls, fun c hc => Watcher.call?_of_mem_endedCalls hc⟩
    simp only [Session.runOn_bind, Session.runOn_log, Watcher.settle, hrun, Session.runOn_pure]
  obtain ⟨w, begun, asked⟩ := t
  cases hgoes : begun && !asked with
  | true =>
    obtain ⟨rfl, rfl⟩ : begun = true ∧ asked = false := by simpa using hgoes
    obtain ⟨script, k, made, hrun, hmade⟩ := hsettle w []
    refine ⟨script, k, made, ?_, hmade⟩
    rw [show (⟨w, true, false⟩ : WatchTask) = running w from rfl, run_running]
    exact hrun
  | false =>
    have hstep : ∃ w' records, (⟨w, begun, asked⟩ : WatchTask).step none = (running w', records) := by
      cases asked with
      | true => exact ⟨_, _, rfl⟩
      | false =>
        obtain rfl : begun = false := by simpa using hgoes
        exact ⟨_, _, rfl⟩
    obtain ⟨w', records, hstep⟩ := hstep
    obtain ⟨script, k, made, hrun, hmade⟩ := hsettle w' records
    refine ⟨none :: script, k, made, ?_, hmade⟩
    simp only [run_cons, hstep, run_running, settle, hgoes, Bool.false_eq_true, ↓reduceIte]
    exact hrun

end CatalogSchema.WatchTask
