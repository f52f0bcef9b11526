import CatalogSchema.Proofs.Watch.Run
import Mathlib.Data.List.Basic

/-!
# Cancelling a watcher

A cancellation interrupts the call that a watcher waits for, whichever it is, and the calls of the clean-up
that is due there follow (`Watcher.cleanup`). The fault that the watch then ends with is the last one that
was raised (`Watcher.run_cancellation`): when the clean-up goes well this is the cancellation, and the
watcher has stopped for good; but a fault of the clean-up takes its place, and the watcher goes on as after
a watch that was lost (`Watcher.cancelled_watcher_stops`).
-/

namespace CatalogSchema

/-- The fault in force after calls that ended as told, when `cause` was in force before them. -/
def lastFault (cause : Fault) (outcomes : List (Option Fault)) : Fault :=
  outcomes.foldl (fun cause outcome => outcome.getD cause) cause

theorem lastFault_of_none {outcomes : List (Option Fault)} (h : ∀ outcome ∈ outcomes, outcome = none)
    (cause : Fault) : lastFault cause outcomes = cause := by
  induction outcomes with
  | nil => rfl
  | cons outcome outcomes ih =>
    rw [h outcome List.mem_cons_self]
    exact ih fun o ho => h o (List.mem_cons_of_mem _ ho)

/-- Once a call ended with a fault, that fault or a later one is in force. -/
theorem some_lastFault_mem {outcomes : List (Option Fault)} (h : ∃ f, some f ∈ outcomes) (cause : Fault) :
    some (lastFault cause outcomes) ∈ outcomes := by
  induction outcomes generalizing cause with
  | nil => simp at h
  | cons outcome outcomes ih =>
    by_cases hlater : ∃ f, some f ∈ outcomes
    · exact List.mem_cons_of_mem _ (ih hlater _)
    · obtain ⟨f, hf⟩ := h
      obtain rfl : some f = outcome := (List.mem_cons.1 hf).resolve_right fun hf => hlater ⟨f, hf⟩
      have hnone : ∀ o ∈ outcomes, o = none := fun o ho =>
        Option.eq_none_iff_forall_ne_some.2 fun g hg => hlater ⟨g, hg ▸ ho⟩
      rw [show lastFault cause (some f :: outcomes) = lastFault f outcomes from rfl, lastFault_of_none hnone]
      exact List.mem_cons_self

/-- The calls that clean up after a watch whose call fails. -/
def WatchStage.cleanup : WatchStage → List Call
  | acquiring | discarding _ => []
  | installing | subscribing | unsubscribing _ => [.discard]
  | pausing | pinging => [.unlisten Watch.channel, .discard]

namespace Watcher

variable {settings : WatchSettings}

def cleanup : Watcher → List Call
  | watching stage => stage.cleanup
  | backingOff | stopped _ => []

/-- A clean-up removes the listener and then hands the connection back, or less. -/
theorem cleanup_suffix (w : Watcher) : w.cleanup <:+ [.unlisten Watch.channel, .discard] := by
  match w with
  | watching .acquiring | watching (.discarding _) | backingOff | stopped _ => exact List.nil_suffix
  | watching .installing | watching .subscribing | watching (.unsubscribing _) => exact List.suffix_cons _ _
  | watching .pausing | watching .pinging => exact List.suffix_refl _

/-- A cancelled watcher makes the calls of its clean-up and no other up to the end of the watch, which ends
with the last fault of the clean-up, else with the cancellation. -/
theorem run_cancellation (settings : WatchSettings) {w : Watcher} (hw : w.isStopped = false)
    {outcomes : List (Option Fault)} (hlength : outcomes.length = w.cleanup.length) :
    w.run (some .cancellation :: outcomes) = afterWatch (some (lastFault .cancellation outcomes)) ∧
      (w.step (some .cancellation)).1.endedCalls settings outcomes = w.cleanup := by
  match w with
  | watching .acquiring | watching (.discarding _) | backingOff =>
    obtain rfl : outcomes = [] := List.length_eq_zero_iff.1 hlength
    exact ⟨rfl, rfl⟩
  | watching .installing | watching .subscribing | watching (.unsubscribing _) =>
    obtain ⟨outcome, rfl⟩ := List.length_eq_one_iff.1 hlength
    exact ⟨rfl, rfl⟩
  | watching .pausing | watching .pinging =>
    obtain ⟨first, second, rfl⟩ := List.length_eq_two.1 hlength
    exact ⟨rfl, rfl⟩
  | stopped cause => cases hw

/-- A cancelled watcher makes the calls of its clean-up. When none of them fails it has stopped, whatever
comes after; when one does, with anything but a cancellation, the watcher goes on: it waits, and then it
acquires the next connection. -/
theorem cancelled_watcher_stops (settings : WatchSettings) (script cleanup : List (Option Fault))
    (hrunning : (start.run script).isStopped = false)
    (hlength : cleanup.length = (start.run script).cleanup.length)
    (hordinary : ∀ f, some f ∈ cleanup → f.isCancellation = false) :
    (start.run script).cleanup <:+ [.unlisten Watch.channel, .discard] ∧
      ((∀ outcome ∈ cleanup, outcome = none) → ∀ rest,
        start.run (script ++ some .cancellation :: (cleanup ++ rest)) = stopped .cancellation ∧
          start.calls settings (script ++ some .cancellation :: (cleanup ++ rest)) =
            start.calls settings script ++ (start.run script).cleanup) ∧
      ((∃ f, some f ∈ cleanup) →
        start.run (script ++ some .cancellation :: cleanup) = backingOff ∧
          start.calls settings (script ++ some .cancellation :: (cleanup ++ [none])) =
            start.calls settings script ++ (start.run script).cleanup ++
              [.sleep settings.delay, .acquire]) := by
  obtain ⟨hend, hended⟩ := run_cancellation settings hrunning hlength
  have hcalls (rest : List (Option Fault)) :
      start.calls settings (script ++ some .cancellation :: (cleanup ++ rest)) =
        start.calls settings script ++ (start.run script).cleanup ++
          (afterWatch (some (lastFault .cancellation cleanup))).calls settings rest := by
    rw [calls_append_cons, List.append_assoc, ← hend, calls_append, hended]
    rfl
  refine ⟨cleanup_suffix _, fun hnone rest => ?_, fun hfault => ?_⟩
  · have hstop : afterWatch (some (lastFault .cancellation cleanup)) = stopped .cancellation := by
      rw [lastFault_of_none hnone]
      rfl
    rw [hstop] at hend hcalls
    refine ⟨?_, ?_⟩
    · rw [run_append, ← List.cons_append, run_append, hend, run_stopped]
    · rw [hcalls rest, calls_stopped, List.append_nil]
  · have hgoesOn : afterWatch (some (lastFault .cancellation cleanup)) = backingOff := by
      have hf := hordinary _ (some_lastFault_mem hfault .cancellation)
      simp [afterWatch, hf]
    rw [hgoesOn] at hend hcalls
    exact ⟨by rw [run_append, hend], hcalls [none]⟩

/-- Cancelled between two pings, with a clean-up that goes well. -/
theorem cancelled_pause_stops :
    start.run [none, none, none, some .cancellation, none, none, none] = stopped .cancellation ∧
      start.calls .default [none, none, none, some .cancellation, none, none, none] =
        [.acquire, .installTriggers, .listen Watch.channel, .sleep 5, .unlisten Watch.channel, .discard] :=
  (cancelled_watcher_stops .default [none, none, none] [none, none] rfl rfl (by simp)).2.1 (by simp) [none]

/-- Cancelled after a ping, with a listener that cannot be removed: the watcher acquires again. -/
theorem failed_cleanup_swallows_cancellation :
    start.run [none, none, none, none, none, some .cancellation, some (.raised .runtime "gone"), none] =
        backingOff ∧
      start.calls .default
          [none, none, none, none, none, some .cancellation, some (.raised .runtime "gone"), none, none] =
        [.acquire, .installTriggers, .listen Watch.channel, .sleep 5, .ping, .sleep 5,
          .unlisten Watch.channel, .discard, .sleep 5, .acquire] :=
  ⟨rfl, rfl⟩

end Watcher

end CatalogSchema
