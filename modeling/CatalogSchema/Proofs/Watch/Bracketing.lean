import CatalogSchema.Proofs.Watch.Cancellation

/-!
# The watches of a watcher

A watch makes its calls in one order (`Watch.plan`) up to the first that fails, and then those that are due
by then (`Watch.cleanup`); `EndedWatch` is such a watch. All that a watcher does is one watch after the
other, with one wait after each that was lost (`Watcher.Traced`). So a listener that was added is removed
once, on its own channel and by its own callback, before the next connection is acquired, and no more than
one connection is held and one listener registered at any time (`Watcher.watches_are_bracketed`).
-/

namespace CatalogSchema

variable {κ : Type}

/-! ## Calls that have ended -/

/-- A call that has ended, with the callback of the listener that it is about, if it is about one. -/
structure Exchange (κ : Type) where
  call : Call
  callback : Option κ
  outcome : Option Fault
  deriving DecidableEq

/-- The callback by which a call adds or removes a listener, when there is but one. -/
def Call.callback? (onChange : κ) : Call → Option κ
  | .listen _ | .unlisten _ => some onChange
  | _ => none

def Exchange.of (onChange : κ) (c : Call) (outcome : Option Fault) : Exchange κ :=
  ⟨c, c.callback? onChange, outcome⟩

/-! ## One watch -/

namespace Watch

/-- The calls of a watch, for as long as none fails: after the listener was added, pauses and pings in turn. -/
def plan (interval : Rat) : Nat → Call
  | 0 => .acquire
  | 1 => .installTriggers
  | 2 => .listen channel
  | n + 3 => if n % 2 = 0 then .sleep interval else .ping

/-- The calls that are due when as many calls went well and the next one failed. -/
def cleanup : (done : Nat) → List Call
  | 0 => []
  | 1 | 2 => [.discard]
  | _ + 3 => [.unlisten channel, .discard]

/-- The calls that went well before any failed. -/
def begun (interval : Rat) (onChange : κ) (done : Nat) : List (Exchange κ) :=
  (List.range done).map fun i => .of onChange (plan interval i) none

theorem begun_succ (interval : Rat) (onChange : κ) (done : Nat) :
    begun interval onChange (done + 1) =
      begun interval onChange done ++ [.of onChange (plan interval done) none] := by
  rw [begun, List.range_succ, List.map_append]
  rfl

end Watch

/-- A watch that has ended: how many of its calls went well, the fault of the next one, and how the calls of
the clean-up ended. -/
structure EndedWatch where
  done : Nat
  fault : Fault
  cleanup : List (Option Fault)
  length_cleanup : cleanup.length = (Watch.cleanup done).length

namespace EndedWatch

/-- The fault that the watch ended with. -/
def cause (e : EndedWatch) : Fault := lastFault e.fault e.cleanup

def isLost (e : EndedWatch) : Bool := !e.cause.isCancellation

def exchanges (interval : Rat) (onChange : κ) (e : EndedWatch) : List (Exchange κ) :=
  Watch.begun interval onChange e.done ++ .of onChange (Watch.plan interval e.done) (some e.fault) ::
    List.zipWith (.of onChange) (Watch.cleanup e.done) e.cleanup

end EndedWatch

namespace WatchStage

/-- The stage at which a watch is when as many calls went well. -/
def planned : Nat → WatchStage
  | 0 => acquiring
  | 1 => installing
  | 2 => subscribing
  | n + 3 => if n % 2 = 0 then pausing else pinging

/-- A watch has come to the stage by these calls. -/
inductive Reached (interval : Rat) (onChange : κ) : WatchStage → List (Exchange κ) → Prop where
  | planned (n : Nat) : Reached interval onChange (planned n) (Watch.begun interval onChange n)
  | unsubscribing (n : Nat) (f : Fault) : Reached interval onChange (unsubscribing f)
      (Watch.begun interval onChange (n + 3) ++ [.of onChange (Watch.plan interval (n + 3)) (some f)])
  | discarding (n : Nat) (f : Fault) (outcomes : List (Option Fault))
      (hlength : outcomes.length + 1 = (Watch.cleanup n).length) :
      Reached interval onChange (discarding (lastFault f outcomes))
        (Watch.begun interval onChange n ++ .of onChange (Watch.plan interval n) (some f) ::
          List.zipWith (.of onChange) (Watch.cleanup n) outcomes)

variable {interval : Rat} {onChange : κ} {stage : WatchStage} {tail : List (Exchange κ)}

theorem call_planned (interval : Rat) : ∀ n, (planned n).call interval = Watch.plan interval n
  | 0 | 1 | 2 => rfl
  | n + 3 => by by_cases h : n % 2 = 0 <;> simp [planned, Watch.plan, call, h]

theorem next_planned_none : ∀ n, (planned n).next none = .ok (planned (n + 1))
  | 0 | 1 | 2 => rfl
  | n + 3 => by
    by_cases h : n % 2 = 0
    · have hn : ¬ (n + 1) % 2 = 0 := by omega
      simp [planned, next, h, hn]
    · have hn : (n + 1) % 2 = 0 := by omega
      simp [planned, next, h, hn]

/-- A call that fails leads to the clean-up, or to the end where none is due. -/
theorem next_planned_some (f : Fault) : ∀ n, (planned n).next (some f) =
    match n with
    | 0 => .error f
    | 1 | 2 => .ok (discarding f)
    | _ + 3 => .ok (unsubscribing f)
  | 0 | 1 | 2 => rfl
  | n + 3 => by by_cases h : n % 2 = 0 <;> simp [planned, next, h]

/-- The last call of a clean-up hands the connection back. -/
theorem zipWith_cleanup_concat (onChange : κ) {n : Nat} {outcomes : List (Option Fault)}
    (hlength : outcomes.length + 1 = (Watch.cleanup n).length) (outcome : Option Fault) :
    List.zipWith (Exchange.of onChange) (Watch.cleanup n) (outcomes ++ [outcome]) =
      List.zipWith (Exchange.of onChange) (Watch.cleanup n) outcomes ++ [.of onChange .discard outcome] := by
  match n with
  | 0 => simp [Watch.cleanup] at hlength
  | 1 | 2 =>
    obtain rfl : outcomes = [] := List.length_eq_zero_iff.1 (Nat.succ.inj hlength)
    rfl
  | n + 3 =>
    obtain ⟨first, rfl⟩ := List.length_eq_one_iff.1 (Nat.succ.inj hlength)
    rfl

/-- The next call leads on along the watch. -/
theorem Reached.next_ok (h : Reached interval onChange stage tail) {outcome : Option Fault}
    {stage' : WatchStage} (hnext : stage.next outcome = .ok stage') :
    Reached interval onChange stage' (tail ++ [.of onChange (stage.call interval) outcome]) := by
  cases h with
  | planned n =>
    rw [call_planned]
    cases outcome with
    | none =>
      rw [next_planned_none] at hnext
      obtain rfl := Except.ok.inj hnext
      rw [← Watch.begun_succ]
      exact .planned (n + 1)
    | some f =>
      rw [next_planned_some] at hnext
      match n, hnext with
      | 1, hnext | 2, hnext =>
        obtain rfl := Except.ok.inj hnext
        exact .discarding _ f [] rfl
      | n + 3, hnext =>
        obtain rfl := Except.ok.inj hnext
        exact .unsubscribing n f
  | unsubscribing n f =>
    obtain rfl := Except.ok.inj hnext
    rw [List.append_assoc]
    exact .discarding (n + 3) f [outcome] rfl
  | discarding n f outcomes hlength => cases hnext

/-- The call with which a watch ends completes it. -/
theorem Reached.next_error (h : Reached interval onChange stage tail) {outcome : Option Fault} {g : Fault}
    (hnext : stage.next outcome = .error g) :
    ∃ e : EndedWatch, e.cause = g ∧
      e.exchanges interval onChange = tail ++ [.of onChange (stage.call interval) outcome] := by
  cases h with
  | planned n =>
    rw [call_planned]
    cases outcome with
    | none =>
      rw [next_planned_none] at hnext
      cases hnext
    | some f =>
      rw [next_planned_some] at hnext
      match n, hnext with
      | 0, hnext =>
        obtain rfl := Except.error.inj hnext
        exact ⟨⟨0, f, [], rfl⟩, rfl, rfl⟩
      | 1, hnext | 2, hnext | _ + 3, hnext => cases hnext
  | unsubscribing n f => cases hnext
  | discarding n f outcomes hlength =>
    obtain rfl := Except.error.inj hnext
    refine ⟨⟨n, f, outcomes ++ [outcome], by rw [List.length_append]; exact hlength⟩, ?_, ?_⟩
    · rw [EndedWatch.cause, lastFault, List.foldl_append]
      rfl
    · rw [EndedWatch.exchanges, zipWith_cleanup_concat onChange hlength, List.append_assoc]
      rfl

end WatchStage

/-! ## One watch after the other -/

namespace Watcher

variable {settings : WatchSettings} {onChange : κ} {w : Watcher} {trace : List (Exchange κ)}

/-- The calls of a run that have ended, each with the callback that it passed on and how it ended. -/
def exchanges (settings : WatchSettings) (onChange : κ) : Watcher → List (Option Fault) → List (Exchange κ)
  | _, [] => []
  | w, outcome :: script =>
    ((w.call? settings).map fun c => ⟨c, w.callback? onChange, outcome⟩).toList ++
      exchanges settings onChange (w.step outcome).1 script

/-- A watcher passes on its callback where it adds or removes a listener, and nowhere else. -/
theorem callback?_eq {c : Call} (hc : w.call? settings = some c) (onChange : κ) :
    w.callback? onChange = c.callback? onChange := by
  cases w with
  | watching stage => cases stage <;> cases hc <;> rfl
  | backingOff => cases hc; rfl
  | stopped cause => cases hc

theorem exchanges_cons {c : Call} (hc : w.call? settings = some c) (outcome : Option Fault)
    (script : List (Option Fault)) :
    w.exchanges settings onChange (outcome :: script) =
      .of onChange c outcome :: (w.step outcome).1.exchanges settings onChange script := by
  rw [exchanges, hc, callback?_eq hc]
  rfl

theorem exchanges_stopped (cause : Fault) (script : List (Option Fault)) :
    (stopped cause).exchanges settings onChange script = [] := by
  induction script with
  | nil => rfl
  | cons outcome script ih => exact ih

/-- The exchanges are those of the calls of the run. -/
theorem map_call_exchanges (script : List (Option Fault)) :
    (w.exchanges settings onChange script).map Exchange.call = w.endedCalls settings script := by
  induction script generalizing w with
  | nil => rfl
  | cons outcome script ih =>
    rw [exchanges, endedCalls, List.map_append, ih]
    cases w.call? settings <;> rfl

/-- Each exchange of a run is the call that was waited for after the exchanges before it. -/
theorem exists_of_exchanges_eq_append_cons {script : List (Option Fault)} {before after : List (Exchange κ)}
    {e : Exchange κ} (h : w.exchanges settings onChange script = before ++ e :: after) :
    ∃ earlier outcome later c, script = earlier ++ outcome :: later ∧
      w.exchanges settings onChange earlier = before ∧ (w.run earlier).call? settings = some c ∧
      e = .of onChange c outcome := by
  induction script generalizing w before with
  | nil => cases before <;> cases h
  | cons outcome script ih =>
    cases hc : w.call? settings with
    | none =>
      match w with
      | stopped cause =>
        rw [exchanges_stopped] at h
        cases before <;> cases h
    | some c =>
      rw [exchanges_cons hc] at h
      cases before with
      | nil =>
        obtain ⟨rfl, -⟩ := List.cons.inj h
        exact ⟨[], outcome, script, c, rfl, rfl, hc, rfl⟩
      | cons first before =>
        obtain ⟨rfl, hrest⟩ := List.cons.inj h
        obtain ⟨earlier, o, later, d, rfl, hbefore, hd, rfl⟩ := ih hrest
        exact ⟨outcome :: earlier, o, later, d, rfl, by rw [exchanges_cons hc, hbefore], hd, rfl⟩

/-- What the exchanges are up to a point, a run has made them. -/
theorem exists_of_exchanges_eq_append {script : List (Option Fault)} {before after : List (Exchange κ)}
    (h : w.exchanges settings onChange script = before ++ after) :
    ∃ earlier, w.exchanges settings onChange earlier = before := by
  cases after with
  | nil => exact ⟨script, h.trans (List.append_nil _)⟩
  | cons e after =>
    obtain ⟨earlier, -, -, -, -, hbefore, -⟩ := exists_of_exchanges_eq_append_cons h
    exact ⟨earlier, hbefore⟩

/-- What a step that makes a call and keeps going preserves, holds after every run. -/
theorem run_induction {P : Watcher → List (Exchange κ) → Prop} (hstart : P w [])
    (hstep : ∀ w trace c outcome, P w trace → w.call? settings = some c →
      P (w.step outcome).1 (trace ++ [.of onChange c outcome])) (script : List (Option Fault)) :
    P (w.run script) (w.exchanges settings onChange script) := by
  suffices h : ∀ trace w, P w trace → P (w.run script) (trace ++ w.exchanges settings onChange script) from
    h [] w hstart
  induction script with
  | nil => exact fun trace w hw => (List.append_nil trace).symm ▸ hw
  | cons outcome script ih =>
    intro trace w hw
    cases hc : w.call? settings with
    | none =>
      match w with
      | stopped cause =>
        rw [run_stopped, exchanges_stopped, List.append_nil]
        exact hw
    | some c =>
      rw [exchanges_cons hc, run_cons, List.append_cons]
      exact ih _ _ (hstep w trace c outcome hw hc)

/-- The watches that were lost, with one wait after each. -/
def lostExchanges (settings : WatchSettings) (onChange : κ) (lost : List EndedWatch) : List (Exchange κ) :=
  lost.flatMap fun e =>
    e.exchanges settings.interval onChange ++ [.of onChange (.sleep settings.delay) none]

/-- The trace leads to the watcher: there are watches that were lost, with one wait after each, and then a
watch that goes on or has ended. -/
inductive Traced (settings : WatchSettings) (onChange : κ) : Watcher → List (Exchange κ) → Prop where
  | watching {lost : List EndedWatch} {stage : WatchStage} {tail : List (Exchange κ)}
      (hlost : ∀ e ∈ lost, e.isLost) (htail : stage.Reached settings.interval onChange tail) :
      Traced settings onChange (watching stage) (lostExchanges settings onChange lost ++ tail)
  | backingOff {lost : List EndedWatch} {e : EndedWatch} (hlost : ∀ e ∈ lost, e.isLost) (he : e.isLost) :
      Traced settings onChange backingOff
        (lostExchanges settings onChange lost ++ e.exchanges settings.interval onChange)
  | cancelled {lost : List EndedWatch} {e : EndedWatch} (hlost : ∀ e ∈ lost, e.isLost)
      (he : e.cause.isCancellation) :
      Traced settings onChange (stopped e.cause)
        (lostExchanges settings onChange lost ++ e.exchanges settings.interval onChange)
  | interrupted {lost : List EndedWatch} {e : EndedWatch} {f : Fault} (hlost : ∀ e ∈ lost, e.isLost)
      (he : e.isLost) :
      Traced settings onChange (stopped f)
        (lostExchanges settings onChange lost ++ e.exchanges settings.interval onChange ++
          [.of onChange (.sleep settings.delay) (some f)])

theorem Traced.step (h : w.Traced settings onChange trace) {c : Call} (hc : w.call? settings = some c)
    (outcome : Option Fault) :
    (w.step outcome).1.Traced settings onChange (trace ++ [.of onChange c outcome]) := by
  cases h with
  | @watching lost stage tail hlost htail =>
    obtain rfl := Option.some.inj hc
    rw [List.append_assoc]
    cases hnext : stage.next outcome with
    | ok stage' =>
      have hstep : ((Watcher.watching stage).step outcome).1 = .watching stage' := by
        simp only [Watcher.step, hnext]
      rw [hstep]
      exact .watching hlost (htail.next_ok hnext)
    | error g =>
      obtain ⟨e, rfl, he⟩ := htail.next_error hnext
      have hstep : ((Watcher.watching stage).step outcome).1 = afterWatch (some e.cause) := by
        simp only [Watcher.step, hnext]
      rw [hstep, ← he, afterWatch]
      split
      · next hcancelled => exact .cancelled hlost hcancelled
      · next hcancelled => exact .backingOff hlost (by simpa [EndedWatch.isLost] using hcancelled)
  | @backingOff lost e hlost he =>
    obtain rfl := Option.some.inj hc
    cases outcome with
    | none =>
      have htrace : lostExchanges settings onChange lost ++ e.exchanges settings.interval onChange ++
          [.of onChange (.sleep settings.delay) none] =
            lostExchanges settings onChange (lost ++ [e]) ++ Watch.begun settings.interval onChange 0 := by
        simp [lostExchanges, Watch.begun]
      rw [htrace]
      refine .watching (fun d hd => ?_) (.planned 0)
      rcases List.mem_append.1 hd with hd | hd
      · exact hlost d hd
      · rw [List.mem_singleton.1 hd]
        exact he
    | some f => exact .interrupted hlost he
  | cancelled hlost he => cases hc
  | interrupted hlost he => cases hc

theorem traced_run (settings : WatchSettings) (onChange : κ) (script : List (Option Fault)) :
    (start.run script).Traced settings onChange (start.exchanges settings onChange script) := by
  refine run_induction ?_ (fun w trace c outcome h hc => h.step hc outcome) script
  have hnone : ∀ e ∈ ([] : List EndedWatch), e.isLost := fun e he => by cases he
  exact .watching hnone (.planned 0)

/-- A watcher stops by cancellation, where waiting for the clock ends with nothing else. -/
theorem Traced.isCancellation {f : Fault} (h : (stopped f).Traced settings onChange trace)
    (hsleep : ∀ e ∈ trace, ∀ seconds g, e.call = .sleep seconds → e.outcome = some g → g.isCancellation) :
    f.isCancellation := by
  cases h with
  | cancelled _ he => exact he
  | interrupted => exact hsleep _ (List.mem_append_right _ List.mem_cons_self) _ f rfl rfl

end Watcher

/-! ## What is held and what is due -/

section Accounts

variable [DecidableEq κ]

/-- The listeners on each connection that is held, after one more exchange; calls go to the connection that
was acquired last, and a connection that is handed back keeps no listener. -/
def Exchange.hold : List (List (String × κ)) → Exchange κ → List (List (String × κ))
  | held, ⟨.acquire, _, none⟩ => [] :: held
  | listeners :: held, ⟨.listen channel, some callback, none⟩ => ((channel, callback) :: listeners) :: held
  | listeners :: held, ⟨.unlisten channel, some callback, none⟩ =>
    listeners.erase (channel, callback) :: held
  | _ :: held, ⟨.release, _, _⟩ | _ :: held, ⟨.discard, _, _⟩ => held
  | held, _ => held

def Exchange.held (trace : List (Exchange κ)) : List (List (String × κ)) := trace.foldl Exchange.hold []

/-- The listeners that were added and whose removal was not asked for yet, after one more exchange. -/
def Exchange.owe : List (String × κ) → Exchange κ → List (String × κ)
  | due, ⟨.listen channel, some callback, none⟩ => (channel, callback) :: due
  | due, ⟨.unlisten channel, some callback, _⟩ => due.erase (channel, callback)
  | due, _ => due

def Exchange.owed (trace : List (Exchange κ)) : List (String × κ) := trace.foldl Exchange.owe []

theorem Exchange.owe_unlisten (onChange : κ) (outcome : Option Fault) :
    owe [(Watch.channel, onChange)] (.of onChange (.unlisten Watch.channel) outcome) = [] := by
  simp [owe, of, Call.callback?]

/-- A removal that fails leaves the listener on the connection. -/
theorem Exchange.hold_unlisten (onChange : κ) (outcome : Option Fault) :
    ∃ listeners : List (String × κ), listeners.length ≤ 1 ∧
      hold [[(Watch.channel, onChange)]] (.of onChange (.unlisten Watch.channel) outcome) = [listeners] := by
  cases outcome with
  | none => exact ⟨[], Nat.zero_le 1, by simp [hold, of, Call.callback?]⟩
  | some f => exact ⟨[(Watch.channel, onChange)], Nat.le_refl 1, rfl⟩

namespace Watcher

open Exchange (held owed)

variable {settings : WatchSettings} {onChange : κ} {w : Watcher}

/-- What a watcher holds, and what it owes. -/
inductive Accounts (onChange : κ) : Watcher → List (List (String × κ)) → List (String × κ) → Prop where
  | acquiring : Accounts onChange (watching .acquiring) [] []
  | installing : Accounts onChange (watching .installing) [[]] []
  | subscribing : Accounts onChange (watching .subscribing) [[]] []
  | pausing : Accounts onChange (watching .pausing) [[(Watch.channel, onChange)]] [(Watch.channel, onChange)]
  | pinging : Accounts onChange (watching .pinging) [[(Watch.channel, onChange)]] [(Watch.channel, onChange)]
  | unsubscribing (f : Fault) : Accounts onChange (watching (.unsubscribing f))
      [[(Watch.channel, onChange)]] [(Watch.channel, onChange)]
  | discarding (f : Fault) {listeners : List (String × κ)} (h : listeners.length ≤ 1) :
      Accounts onChange (watching (.discarding f)) [listeners] []
  | backingOff : Accounts onChange backingOff [] []
  | stopped (f : Fault) : Accounts onChange (stopped f) [] []

omit [DecidableEq κ] in
theorem accounts_afterWatch (onChange : κ) (f : Fault) : (afterWatch (some f)).Accounts onChange [] [] := by
  cases hf : f.isCancellation with
  | true =>
    simp only [afterWatch, hf, ↓reduceIte]
    exact .stopped f
  | false =>
    simp only [afterWatch, hf, Bool.false_eq_true, ↓reduceIte]
    exact .backingOff

theorem Accounts.step {holding : List (List (String × κ))} {owing : List (String × κ)}
    (h : w.Accounts onChange holding owing) {c : Call} (hc : w.call? settings = some c)
    (outcome : Option Fault) :
    (w.step outcome).1.Accounts onChange (Exchange.hold holding (.of onChange c outcome))
      (Exchange.owe owing (.of onChange c outcome)) := by
  cases h with
  | acquiring =>
    cases hc
    cases outcome with
    | none => exact .installing
    | some f => exact accounts_afterWatch onChange f
  | installing =>
    cases hc
    cases outcome with
    | none => exact .subscribing
    | some f => exact .discarding f (Nat.zero_le 1)
  | subscribing =>
    cases hc
    cases outcome with
    | none => exact .pausing
    | some f => exact .discarding f (Nat.zero_le 1)
  | pausing =>
    cases hc
    cases outcome with
    | none => exact .pinging
    | some f => exact .unsubscribing f
  | pinging =>
    cases hc
    cases outcome with
    | none => exact .pausing
    | some f => exact .unsubscribing f
  | unsubscribing cause =>
    obtain rfl : Call.unlisten Watch.channel = c := Option.some.inj hc
    rw [Exchange.owe_unlisten]
    obtain ⟨listeners, hlength, hheld⟩ := Exchange.hold_unlisten onChange outcome
    rw [hheld]
    exact .discarding _ hlength
  | discarding cause hlength =>
    cases hc
    exact accounts_afterWatch onChange _
  | backingOff =>
    cases hc
    cases outcome with
    | none => exact .acquiring
    | some f => exact .stopped f
  | stopped f => cases hc

theorem accounts_run (settings : WatchSettings) (onChange : κ) (script : List (Option Fault)) :
    (start.run script).Accounts onChange (held (start.exchanges settings onChange script))
      (owed (start.exchanges settings onChange script)) := by
  refine run_induction (P := fun w trace => w.Accounts onChange (held trace) (owed trace)) .acquiring
    ?_ script
  intro w trace c outcome h hc
  rw [held, owed, List.foldl_concat, List.foldl_concat]
  exact h.step hc outcome

section Holding

variable {holding : List (List (String × κ))} {owing : List (String × κ)}
  (h : w.Accounts onChange holding owing)

include h

omit [DecidableEq κ]

theorem Accounts.length_le_one :
    holding.length ≤ 1 ∧ holding.flatten.length ≤ 1 ∧ owing.length ≤ 1 := by
  cases h with
  | discarding f hlength => exact ⟨Nat.le_refl 1, by simpa using hlength, Nat.zero_le 1⟩
  | _ => exact ⟨by simp, by simp, by simp⟩

theorem Accounts.of_acquire (hc : w.call? settings = some .acquire) : holding = [] ∧ owing = [] := by
  cases h with
  | acquiring => exact ⟨rfl, rfl⟩
  | _ => cases hc

theorem Accounts.of_listen {channel : String} (hc : w.call? settings = some (.listen channel)) :
    channel = Watch.channel ∧ owing = [] := by
  cases h with
  | subscribing => cases hc; exact ⟨rfl, rfl⟩
  | _ => cases hc

theorem Accounts.of_unlisten {channel : String} (hc : w.call? settings = some (.unlisten channel)) :
    owing = [(channel, onChange)] := by
  cases h with
  | unsubscribing f => cases hc; rfl
  | _ => cases hc

theorem Accounts.of_stopped (hw : w.isStopped = true) : holding = [] ∧ owing = [] := by
  cases h with
  | stopped f => exact ⟨rfl, rfl⟩
  | _ => cases hw

end Holding

/-- A watcher does one watch after the other, each cut short by its first call that fails and then cleaned
up, with one wait after each that was lost, and it stops by cancellation alone, holding nothing. At any time
it holds at most one connection and one listener. When it acquires a connection or adds a listener, all
listeners that it added have been removed, and when it removes one, by the channel and the callback, that
is the one which it added and has not removed. -/
theorem watches_are_bracketed (settings : WatchSettings) (onChange : κ) (script : List (Option Fault))
    (hsleep : ∀ e ∈ start.exchanges settings onChange script, ∀ seconds f,
      e.call = .sleep seconds → e.outcome = some f → f.isCancellation) :
    let trace := start.exchanges settings onChange script
    (start.run script).Traced settings onChange trace ∧
    (∀ before after, trace = before ++ after →
      (held before).length ≤ 1 ∧ (held before).flatten.length ≤ 1 ∧ (owed before).length ≤ 1) ∧
    (∀ before e after, trace = before ++ e :: after →
      (e.call = .acquire → held before = [] ∧ owed before = []) ∧
      (∀ channel, e.call = .listen channel →
        channel = Watch.channel ∧ e.callback = some onChange ∧ owed before = []) ∧
      ∀ channel, e.call = .unlisten channel →
        e.callback = some onChange ∧ owed before = [(channel, onChange)]) ∧
    ∀ f, start.run script = stopped f → f.isCancellation ∧ held trace = [] ∧ owed trace = [] := by
  intro trace
  have htraced := traced_run settings onChange script
  refine ⟨htraced, ?_, ?_, ?_⟩
  · intro before after hsplit
    obtain ⟨earlier, rfl⟩ := exists_of_exchanges_eq_append hsplit
    exact (accounts_run settings onChange earlier).length_le_one
  · intro before e after hsplit
    obtain ⟨earlier, outcome, -, c, -, rfl, hc, rfl⟩ := exists_of_exchanges_eq_append_cons hsplit
    have haccounts := accounts_run settings onChange earlier
    refine ⟨?_, ?_, ?_⟩
    · rintro rfl
      exact haccounts.of_acquire hc
    · rintro channel rfl
      obtain ⟨hchannel, howed⟩ := haccounts.of_listen hc
      exact ⟨hchannel, rfl, howed⟩
    · rintro channel rfl
      exact ⟨rfl, haccounts.of_unlisten hc⟩
  · intro f hf
    have haccounts := accounts_run settings onChange script
    rw [hf] at haccounts htraced
    refine ⟨?_, haccounts.of_stopped rfl⟩
    exact htraced.isCancellation hsleep

/-- A watcher whose first watch gets no connection, whose second one is lost while it pings, with a listener
that cannot be removed, and whose third one is cancelled in a pause. -/
theorem lost_twice_then_cancelled :
    let script := [some (.raised .connection "refused"), none, none, none, none, none, none, none,
      some (.raised .connection "lost"), some (.raised .runtime "gone"), none, none, none, none, none,
      some .cancellation, none, none]
    let trace := start.exchanges .default "introspect" script
    (∀ e ∈ trace, ∀ seconds f, e.call = .sleep seconds → e.outcome = some f → f.isCancellation) ∧
      start.run script = stopped .cancellation ∧
      trace.map Exchange.call = [.acquire, .sleep 5, .acquire, .installTriggers, .listen Watch.channel,
        .sleep 5, .ping, .sleep 5, .ping, .unlisten Watch.channel, .discard, .sleep 5, .acquire,
        .installTriggers, .listen Watch.channel, .sleep 5, .unlisten Watch.channel, .discard] ∧
      (start.run script).Traced .default "introspect" trace ∧ held trace = [] ∧ owed trace = [] := by
  intro script trace
  have hsleep : ∀ e ∈ trace, ∀ seconds f, e.call = .sleep seconds → e.outcome = some f →
      f.isCancellation := by
    have hall : ∀ e ∈ trace, e.call.operation = .sleep → e.outcome.all Fault.isCancellation := by decide
    intro e he seconds f hcall hf
    have hcancelled := hall e he (by rw [hcall]; rfl)
    rwa [hf, Option.all_some] at hcancelled
  have hstopped : start.run script = stopped .cancellation := rfl
  obtain ⟨htraced, -, -, hend⟩ := watches_are_bracketed .default "introspect" script hsleep
  exact ⟨hsleep, hstopped, rfl, htraced, (hend _ hstopped).2⟩

end Watcher

end Accounts

end CatalogSchema
