import CatalogSchema.Proofs.Service.Reintrospection
import CatalogSchema.Proofs.Service.Watching
import CatalogSchema.Proofs.Watch.Task

/-!
# A lifespan among its tasks

`Lifespan` is the lifespan of a router together with all that goes on beside it: a `Service`, whose first
start the lifespan waits for, and the watcher that an earlier lifespan left behind. Steps come in any order.
The lifespan only asks tasks to stop, which they find out with their next step, and it closes the pool
without waiting for them. What goes on beside a lifespan is a run of its service (`Lifespan.service_run`).
The lifespan itself makes the calls of its stage (`Lifespan.Sound.calls`): it closes the pool once serving
has ended without a fault, and the next thing that happens to its watcher is the interruption, whatever it
was doing (`Lifespan.obeys_after_serving`).
-/

namespace CatalogSchema

/-! ## What a service keeps -/

/-- What a step of the task is in a service: its watcher is started first, and it is interrupted if it was
asked to stop. -/
def WatchTask.inService (t : WatchTask) (outcome : Option Fault) : List Service.Event :=
  (if t.begun then [] else [.watch]) ++
    if t.asked then [.wake (some .cancellation)] else if t.begun then [.wake outcome] else []

namespace Service

variable {history : CatalogHistory} {s : Service} {w : Watcher}

/-- The watcher cannot take a step: there is none and none can be started, or its connection is lost. -/
def Waits (s : Service) : Prop :=
  s.watcher? = none ∧ ¬ (s.traffic.served ≠ [] ∧ s.traffic.router.watches) ∨
    ∃ w, s.watcher? = some w ∧ w.needsConnection ∧ ¬ s.connected

theorem step_wake (history : CatalogHistory) (h : s.watcher? = some w) (outcome : Option Fault) :
    (s.step history (.wake outcome) = s ∧ outcome = none ∧ s.Waits) ∨
      (s.step history (.wake outcome)).traffic = (s.withWatcher (w.step outcome).1).traffic := by
  simp only [step, h]
  split
  · next hblocked => exact .inl ⟨rfl, hblocked.1, .inr ⟨w, h, hblocked.2⟩⟩
  · right
    rw [dropUnheard]
    split <;> split <;> rfl

theorem step_watch (history : CatalogHistory) (s : Service) :
    (s.step history .watch = s ∧ (s.watcher? = none → s.Waits)) ∨
      s.watcher? = none ∧ s.step history .watch = s.withWatcher .start := by
  simp only [step]
  split
  · next h => exact .inr ⟨h.2.2, rfl⟩
  · next h =>
    exact .inl ⟨rfl, fun hnone => .inl ⟨hnone, fun hstarts => h ⟨hstarts.1, hstarts.2, hnone⟩⟩⟩

/-- Nothing but its own steps changes the watcher. -/
theorem watcher?_step {e : Event} (hwatch : e ≠ .watch) (hwake : ∀ outcome, e ≠ .wake outcome) :
    (s.step history e).watcher? = s.watcher? := by
  have hmove (e : Traffic.Event) : (s.move history e).watcher? = s.watcher? := s.traffic.watcher_step e
  cases e with
  | watch => exact absurd rfl hwatch
  | wake outcome => exact absurd rfl (hwake outcome)
  | look i => exact hmove _
  | proceed i outcome => exact hmove _
  | launch => exact hmove _
  | change =>
    simp only [step]
    split <;> exact hmove _
  | deliver =>
    simp only [step]
    split
    · rfl
    · exact hmove _
  | lose =>
    simp only [step, dropUnheard]
    split <;> rfl

theorem watches_step (s : Service) (e : Event) :
    (s.step history e).traffic.router.watches = s.traffic.router.watches := by
  have hmove (e : Traffic.Event) :
      (s.move history e).traffic.router.watches = s.traffic.router.watches := by
    obtain ⟨m, hm⟩ := s.traffic.exists_metadata_step history e
    exact (congrArg Router.watches hm :)
  cases e with
  | watch =>
    rcases s.step_watch history with ⟨h, -⟩ | ⟨-, h⟩ <;> rw [h]
    rfl
  | wake outcome =>
    cases hw : s.watcher? with
    | none => simp only [step, hw]
    | some w =>
      rcases step_wake history hw outcome with ⟨h, -⟩ | h <;> rw [h]
      rfl
  | look i => exact hmove _
  | proceed i outcome => exact hmove _
  | launch => exact hmove _
  | change =>
    simp only [step]
    split <;> exact hmove _
  | deliver =>
    simp only [step]
    split
    · rfl
    · exact hmove _
  | lose =>
    simp only [step, dropUnheard]
    split <;> rfl

theorem watches_run (s : Service) (es : List Event) :
    (s.run history es).traffic.router.watches = s.traffic.router.watches := by
  induction es generalizing s with
  | nil => rfl
  | cons e es ih => exact (ih _).trans (s.watches_step e)

theorem watcher?_run {es : List Event} (h : ∀ e ∈ es, e ≠ .watch ∧ ∀ outcome, e ≠ .wake outcome) :
    (s.run history es).watcher? = s.watcher? := by
  induction es generalizing s with
  | nil => rfl
  | cons e es ih =>
    obtain ⟨⟨hwatch, hwake⟩, hes⟩ := List.forall_mem_cons.1 h
    exact (ih hes).trans (watcher?_step hwatch hwake)

/-- The task of the watcher, which is to be created or has taken its first step; `asked` says whether it is
to be interrupted. -/
def task (s : Service) (asked : Bool) : WatchTask := ⟨s.watcher?.getD .start, s.watcher?.isSome, asked⟩

/-- The task takes its step, or it waits. -/
theorem task_run (history : CatalogHistory) (s : Service) (asked : Bool) (outcome : Option Fault) :
    let s' := s.run history ((s.task asked).inService outcome)
    (s'.task (asked && s'.watcher?.isNone) = s.task asked ∧ s.Waits) ∨
      s'.task (asked && s'.watcher?.isNone) = ((s.task asked).step outcome).1 := by
  cases hw : s.watcher? with
  | none =>
    have htask : s.task asked = ⟨.start, false, asked⟩ := by rw [task, hw]; rfl
    rw [htask]
    rcases s.step_watch history with ⟨h, hwaits⟩ | ⟨-, h⟩
    · -- the task is created later
      left
      have hrun : s.run history (WatchTask.inService ⟨.start, false, asked⟩ outcome) = s := by
        cases asked with
        | false => exact h
        | true =>
          show (s.step history .watch).step history (.wake _) = s
          rw [h]
          simp only [step, hw]
      refine ⟨?_, hwaits hw⟩
      rw [hrun, hw, ← htask]
      cases asked <;> rfl
    · right
      cases asked with
      | false =>
        have hrun : s.run history (WatchTask.inService ⟨.start, false, false⟩ outcome) =
          s.withWatcher .start := h
        rw [hrun]
        rfl
      | true =>
        have hrun : s.run history (WatchTask.inService ⟨.start, false, true⟩ outcome) =
            (s.withWatcher .start).step history (.wake (some .cancellation)) := by
          rw [← h]
          rfl
        have hstart : (s.withWatcher .start).watcher? = some .start := rfl
        rcases step_wake history hstart (some .cancellation) with ⟨-, hnone, -⟩ | htraffic
        · cases hnone
        · rw [hrun, task, watcher?, htraffic]
          rfl
  | some w =>
    have htask : s.task asked = ⟨w, true, asked⟩ := by rw [task, hw]; rfl
    rw [htask]
    have hrun : s.run history (WatchTask.inService ⟨w, true, asked⟩ outcome) =
        s.step history (.wake (if asked then some .cancellation else outcome)) := by
      cases asked <;> rfl
    rw [hrun]
    rcases step_wake history hw (if asked then some .cancellation else outcome) with
      ⟨h, hnone, hwaits⟩ | htraffic
    · left
      obtain rfl : asked = false := by
        cases asked
        · rfl
        · cases hnone
      refine ⟨?_, hwaits⟩
      rw [h, ← htask]
      rfl
    · right
      rw [task, watcher?, htraffic]
      cases asked <;> rfl

end Service

/-! ## Lifespans -/

/-- How a lifespan ended. -/
inductive LifespanEnd where
  /-- The pool could not be opened. -/
  | noPool (f : Fault)
  /-- The first start failed. -/
  | noStart (f : Fault)
  /-- Serving ended with a fault. -/
  | interrupted (f : Fault)
  /-- Serving ended without a fault, and closing the pool has ended as told. -/
  | closed (outcome : Option Fault)

/-- The fault that the lifespan ends with. -/
def LifespanEnd.fault? : LifespanEnd → Option Fault
  | noPool f | noStart f | interrupted f => some f
  | closed outcome => outcome

/-- What a lifespan waits for. -/
inductive LifespanStage where
  | opening
  | starting
  | serving
  | closing
  | ended (way : LifespanEnd)

namespace LifespanStage

/-- Serving was begun. -/
def hasServed : LifespanStage → Bool
  | serving | closing | ended (.interrupted _) | ended (.closed _) => true
  | _ => false

/-- Serving has ended without a fault. -/
def hasClosed : LifespanStage → Bool
  | closing | ended (.closed _) => true
  | _ => false

/-- The pool was opened. -/
def hasPool : LifespanStage → Bool
  | opening | ended (.noPool _) => false
  | _ => true

/-- The calls that the lifespan itself has made. -/
def calls (uri : Option String) (stage : LifespanStage) : List Call :=
  .createPool uri :: ((if stage.hasServed then [.serve] else []) ++
    if stage.hasClosed then [.close] else [])

theorem count_calls (uri : Option String) (stage : LifespanStage) :
    (stage.calls uri).count .close = stage.hasClosed.toNat := by
  cases stage with
  | ended way => cases way <;> rfl
  | _ => rfl

end LifespanStage

/-- A lifespan of a router, and what goes on beside it. -/
structure Lifespan where
  stage : LifespanStage
  /-- The starts, the watcher and the database. -/
  service : Service
  /-- Whether the watcher is to be interrupted by its next step. -/
  asked : Bool
  /-- The task of a watcher from before. -/
  former : Option WatchTask
  /-- The calls that the lifespan itself has made. -/
  calls : List Call

namespace Lifespan

inductive Event where
  /-- What the lifespan itself waits for ends, unless this is its start. -/
  | own (outcome : Option Fault)
  /-- The task of its watcher takes a step; `outcome` is how the call ended that the watcher waits for. -/
  | watcher (outcome : Option Fault)
  /-- The task of the former watcher takes a step. -/
  | former (outcome : Option Fault)
  /-- Something else happens in the service. -/
  | beside (e : Service.Event)

def initial (r : Router) : Lifespan :=
  ⟨.opening, .initial { r with watcher := none }, false, r.watcher.map .running, [.createPool r.uri]⟩

/-- The task that it created for a watcher. -/
def task? (l : Lifespan) : Option WatchTask :=
  if l.service.traffic.router.watches && l.stage.hasServed then some (l.service.task l.asked) else none

/-- The task of the watcher of the router. -/
def watcher? (l : Lifespan) : Option WatchTask := l.task?.or l.former

/-- The router, with its watcher. -/
def router (l : Lifespan) : Router :=
  { l.service.traffic.router with watcher := l.watcher?.map WatchTask.watcher }

/-- Begin to serve; a watcher that is replaced by one of its own is asked to stop. -/
def serve (l : Lifespan) : Lifespan :=
  { l with
    stage := .serving
    former := if l.service.traffic.router.watches then l.former.map .ask else l.former
    calls := l.calls ++ [.serve] }

/-- Ask the watcher to stop, and close the pool. -/
def close (l : Lifespan) : Lifespan :=
  { l with
    stage := .closing
    asked := l.task?.any fun t => t.ask.asked
    former := if l.task?.isSome then l.former else l.former.map .ask
    calls := l.calls ++ [.close] }

/-- Go on when the first start has ended. -/
def afterStart (l : Lifespan) : Lifespan :=
  match l.stage, l.service.traffic.flights.head?.map Flight.stage with
  | .starting, some (.finished (.ok _)) => l.serve
  | .starting, some (.finished (.error f)) => { l with stage := .ended (.noStart f) }
  | _, _ => l

/-- What happens in the service. Without a pool it is only that the catalog changes. -/
def inService (l : Lifespan) : Event → List Service.Event
  | .own _ | .former _ => []
  | .watcher outcome => l.task?.elim [] (·.inService outcome)
  -- the steps of the watcher are those of its task
  | .beside .watch | .beside (.wake _) => []
  | .beside .change => [.change]
  | .beside e => if l.stage.hasPool then [e] else []

variable (history : CatalogHistory)

/-- One step; an event that cannot happen changes nothing. -/
def step (l : Lifespan) (e : Event) : Lifespan :=
  let m := { l with service := l.service.run history (l.inService e) }
  match e with
  | .own outcome =>
    match l.stage, outcome with
    | .opening, none => { m with stage := .starting }
    | .opening, some f => { m with stage := .ended (.noPool f) }
    | .serving, none => m.close
    | .serving, some f => { m with stage := .ended (.interrupted f) }
    | .closing, outcome => { m with stage := .ended (.closed outcome) }
    | .starting, _ | .ended _, _ => m
  | .watcher _ => { m with asked := l.asked && m.service.watcher?.isNone }
  | .former outcome => { m with former := m.former.map fun t => (t.step outcome).1 }
  | .beside _ => m.afterStart

def run (l : Lifespan) (es : List Event) : Lifespan := es.foldl (step history) l

variable {history : CatalogHistory} {l : Lifespan}

theorem run_cons (e : Event) (es : List Event) :
    l.run history (e :: es) = (l.step history e).run history es := rfl

theorem run_append (es es' : List Event) :
    l.run history (es ++ es') = (l.run history es).run history es' := List.foldl_append ..

theorem afterStart_of_ne (h : l.stage ≠ .starting) : l.afterStart = l := by
  rw [afterStart]
  split
  · exact absurd ‹l.stage = .starting› h
  · exact absurd ‹l.stage = .starting› h
  · rfl

theorem service_afterStart (l : Lifespan) : l.afterStart.service = l.service := by
  rw [afterStart]
  split <;> rfl

theorem service_step (history : CatalogHistory) (l : Lifespan) (e : Event) :
    (l.step history e).service = l.service.run history (l.inService e) := by
  cases e with
  | own outcome =>
    simp only [step]
    split <;> rfl
  | watcher outcome | former outcome => rfl
  | beside e => exact service_afterStart _

/-- What happens in the service in a run. -/
def allInService (history : CatalogHistory) : Lifespan → List Event → List Service.Event
  | _, [] => []
  | l, e :: es => l.inService e ++ allInService history (l.step history e) es

/-- In a run of a lifespan its service takes a run. -/
theorem service_run (l : Lifespan) (es : List Event) :
    (l.run history es).service = l.service.run history (l.allInService history es) := by
  induction es generalizing l with
  | nil => rfl
  | cons e es ih =>
    rw [run_cons, ih, service_step, allInService, Service.run_append]

/-! ## The watcher -/

theorem watches_step (history : CatalogHistory) (l : Lifespan) (e : Event) :
    (l.step history e).service.traffic.router.watches = l.service.traffic.router.watches := by
  rw [service_step, Service.watches_run]

theorem watches_run (history : CatalogHistory) (l : Lifespan) (es : List Event) :
    (l.run history es).service.traffic.router.watches = l.service.traffic.router.watches := by
  rw [service_run, Service.watches_run]

theorem task?_of_watches (hwatches : l.service.traffic.router.watches) (hserved : l.stage.hasServed) :
    l.task? = some (l.service.task l.asked) := if_pos (by rw [hwatches, hserved]; rfl)

theorem task?_of_not_watches (hwatches : l.service.traffic.router.watches = false) : l.task? = none :=
  if_neg (by simp [hwatches])

theorem task?_congr {m : Lifespan}
    (hwatches : m.service.traffic.router.watches = l.service.traffic.router.watches)
    (hserved : m.stage.hasServed = l.stage.hasServed) (hwatcher : m.service.watcher? = l.service.watcher?)
    (hasked : m.asked = l.asked) : m.task? = l.task? := by
  simp only [task?, Service.task, hwatches, hserved, hwatcher, hasked]

/-- Its task takes a step, or goes on waiting. -/
theorem task?_step_watcher (history : CatalogHistory) (l : Lifespan) (outcome : Option Fault) :
    (l.step history (.watcher outcome)).task? = l.task? ∨
      (l.step history (.watcher outcome)).task? = l.task?.map fun t => (t.step outcome).1 := by
  have hservice := l.service_step history (.watcher outcome)
  have hwatches := l.watches_step history (.watcher outcome)
  cases h : l.service.traffic.router.watches && l.stage.hasServed with
  | true =>
    have ht : l.task? = some (l.service.task l.asked) := if_pos h
    rw [inService, ht, Option.elim_some] at hservice
    have hstep : (l.step history (.watcher outcome)).task? =
        some ((l.step history (.watcher outcome)).service.task
          (l.asked && (l.step history (.watcher outcome)).service.watcher?.isNone)) :=
      if_pos ((congrArg (· && l.stage.hasServed) hwatches).trans h)
    have htask := l.service.task_run history l.asked outcome
    rw [hstep, ht, hservice]
    exact htask.imp (fun h => congrArg some h.1) (congrArg some)
  | false =>
    have hnone : l.task? = none := if_neg (by simp [h])
    refine .inl (.trans (if_neg ?_) hnone.symm)
    have hno := (congrArg (· && l.stage.hasServed) hwatches).trans h
    exact Bool.eq_false_iff.1 hno

/-- The steps of its watcher are the only ones that its task takes. -/
theorem watcher?_inService {e : Event} (h : ∀ outcome, e ≠ .watcher outcome) :
    (l.step history e).service.watcher? = l.service.watcher? := by
  rw [service_step]
  refine Service.watcher?_run fun e' he' => ?_
  cases e with
  | own outcome | former outcome => cases he'
  | watcher outcome => exact absurd rfl (h outcome)
  | beside e =>
    obtain ⟨rfl, he⟩ : e' = e ∧ e ≠ .watch ∧ ∀ outcome, e ≠ .wake outcome := by
      cases e <;> simp_all [inService]
    exact he

/-- Once serving has ended, the task of the watcher stays as it is or takes a step. -/
theorem watcher?_step (history : CatalogHistory) (h : l.stage.hasClosed) (e : Event) :
    (l.step history e).stage.hasClosed ∧
      ((l.step history e).watcher? = l.watcher? ∨
        ∃ outcome, (l.step history e).watcher? = l.watcher?.map fun t => (t.step outcome).1) := by
  have hwatches := l.watches_step history e
  cases e with
  | own outcome =>
    have hwatcher : (l.step history (.own outcome)).service.watcher? = l.service.watcher? :=
      watcher?_inService (by simp)
    obtain ⟨stage, service, asked, former, calls⟩ := l
    match stage with
    | .closing | .ended (.closed _) => exact ⟨rfl, .inl (congrArg (·.or former) (task?_congr rfl rfl rfl rfl))⟩
    | .opening | .starting | .serving | .ended (.noPool _) | .ended (.noStart _)
    | .ended (.interrupted _) => cases h
  | watcher outcome =>
    refine ⟨h, ?_⟩
    rcases l.task?_step_watcher history outcome with htask | htask
    · exact .inl (congrArg (·.or l.former) htask)
    · cases ht : l.task? with
      | none => exact .inl (congrArg (·.or l.former) (htask.trans (by rw [ht]; rfl)))
      | some t =>
        refine .inr ⟨outcome, ?_⟩
        rw [Lifespan.watcher?, Lifespan.watcher?, htask, ht]
        rfl
  | former outcome =>
    have htask : (l.step history (.former outcome)).task? = l.task? := task?_congr rfl rfl rfl rfl
    refine ⟨h, ?_⟩
    rw [Lifespan.watcher?, Lifespan.watcher?, htask]
    cases l.task? with
    | none => exact .inr ⟨outcome, rfl⟩
    | some t => exact .inl rfl
  | beside e =>
    have hwatcher : (l.step history (.beside e)).service.watcher? = l.service.watcher? :=
      watcher?_inService (by simp)
    have hne : l.stage ≠ .starting := fun hs => by rw [hs] at h; cases h
    have hstep : l.step history (.beside e) =
        { l with service := l.service.run history (l.inService (.beside e)) } := afterStart_of_ne hne
    rw [hstep] at hwatches hwatcher ⊢
    exact ⟨h, .inl (congrArg (·.or l.former) (task?_congr hwatches rfl hwatcher rfl))⟩

/-! ## Runs -/

/-- What holds in every run. -/
structure Sound (uri : Option String) (l : Lifespan) : Prop where
  calls : l.calls = l.stage.calls uri
  asked : l.stage.hasClosed = false → l.asked = false

variable {uri : Option String}

theorem sound_initial (r : Router) : (initial r).Sound r.uri := ⟨rfl, fun _ => rfl⟩

theorem Sound.step (h : l.Sound uri) (e : Event) : (l.step history e).Sound uri := by
  obtain ⟨stage, service, asked, former, calls⟩ := l
  obtain ⟨rfl, hasked⟩ : calls = stage.calls uri ∧ (stage.hasClosed = false → asked = false) :=
    ⟨h.calls, h.asked⟩
  cases e with
  | own outcome =>
    match stage, outcome with
    | .opening, none | .opening, some _ | .starting, _ | .serving, some _ | .ended _, _ =>
      exact ⟨rfl, hasked⟩
    | .serving, none | .closing, _ => exact ⟨rfl, fun h => by cases h⟩
  | watcher outcome =>
    refine ⟨rfl, fun h => ?_⟩
    show (asked && _) = false
    rw [hasked h]
    rfl
  | former outcome => exact ⟨rfl, hasked⟩
  | beside e =>
    simp only [Lifespan.step, afterStart]
    split
    · exact ⟨rfl, fun _ => hasked rfl⟩
    · exact ⟨rfl, fun _ => hasked rfl⟩
    · exact ⟨rfl, hasked⟩

theorem Sound.run (h : l.Sound uri) (es : List Event) : (l.run history es).Sound uri := by
  induction es generalizing l with
  | nil => exact h
  | cons e es ih => exact ih (h.step e)

/-- From then on the watcher does what it was asked for. -/
theorem obeys_run (hclosed : l.stage.hasClosed) {task : Option WatchTask}
    (h : Option.Rel WatchTask.Obeys task l.watcher?) (es : List Event) :
    (l.run history es).stage.hasClosed ∧
      Option.Rel WatchTask.Obeys task (l.run history es).watcher? := by
  induction es generalizing l with
  | nil => exact ⟨hclosed, h⟩
  | cons e es ih =>
    obtain ⟨hclosed', hsame | ⟨outcome, hstep⟩⟩ := watcher?_step history hclosed e
    · exact ih hclosed' (hsame ▸ h)
    · refine ih hclosed' ?_
      rw [hstep]
      generalize l.watcher? = now at h
      cases h with
      | none => exact .none
      | some hobeys => exact .some (hobeys.step outcome)

theorem task_close (hwatches : l.service.traffic.router.watches) (hserving : l.stage = .serving) :
    l.close.service.task l.close.asked = (l.service.task l.asked).ask := by
  rw [close, task?_of_watches hwatches (by rw [hserving]; rfl)]
  rfl

/-- To close the pool is to ask the watcher to stop. -/
theorem watcher?_close (hserving : l.stage = .serving) : l.close.watcher? = l.watcher?.map .ask := by
  cases hwatches : l.service.traffic.router.watches with
  | true =>
    rw [watcher?, watcher?, task?_of_watches (l := l.close) hwatches rfl, task_close hwatches hserving,
      task?_of_watches hwatches (by rw [hserving]; rfl)]
    rfl
  | false =>
    have ht := task?_of_not_watches hwatches
    rw [watcher?, watcher?, task?_of_not_watches (l := l.close) hwatches, close, ht]
    rfl

theorem step_own_none (hserving : l.stage = .serving) : l.step history (.own none) = l.close := by
  obtain ⟨stage, service, asked, former, calls⟩ := l
  cases hserving
  rfl

/-- Only the end of serving leads to the closing of the pool. -/
theorem hasClosed_step {e : Event} (h : l.stage.hasClosed = false)
    (h' : (l.step history e).stage.hasClosed) : e = .own none ∧ l.stage = .serving := by
  obtain ⟨stage, service, asked, former, calls⟩ := l
  cases e with
  | own outcome =>
    match stage, outcome with
    | .serving, none => exact ⟨rfl, rfl⟩
    | .opening, none | .opening, some _ | .starting, _ | .serving, some _ | .ended (.noPool _), _
    | .ended (.noStart _), _ | .ended (.interrupted _), _ => cases h'
    | .closing, _ | .ended (.closed _), _ => cases h
  | watcher outcome | former outcome => exact absurd (h.symm.trans h') (by decide)
  | beside e =>
    simp only [Lifespan.step, afterStart] at h'
    split at h'
    · cases h'
    · cases h'
    · exact absurd (h.symm.trans h') (by decide)

theorem exists_end_of_serving {es : List Event} (h : l.stage.hasClosed = false)
    (h' : (l.run history es).stage.hasClosed) :
    ∃ before after, es = before ++ .own none :: after ∧ (l.run history before).stage = .serving := by
  induction es generalizing l with
  | nil => exact absurd (h.symm.trans h') (by decide)
  | cons e es ih =>
    cases hstep : (l.step history e).stage.hasClosed with
    | true =>
      obtain ⟨rfl, hserving⟩ := hasClosed_step h hstep
      exact ⟨[], es, rfl, hserving⟩
    | false =>
      obtain ⟨before, after, rfl, hserving⟩ := ih hstep h'
      exact ⟨e :: before, after, rfl, hserving⟩

/-- The end of serving closes the pool, and from then on the watcher does what it is asked for. -/
theorem obeys_after_serving (l : Lifespan) {before : List Event}
    (hserving : (l.run history before).stage = .serving) (after : List Event) :
    (l.run history (before ++ .own none :: after)).stage.hasClosed ∧
      Option.Rel WatchTask.Obeys (l.run history before).watcher?
        (l.run history (before ++ .own none :: after)).watcher? := by
  rw [run_append, run_cons, step_own_none hserving]
  refine obeys_run rfl ?_ after
  rw [watcher?_close hserving]
  cases (l.run history before).watcher? with
  | none => exact .none
  | some t => exact .some (.inl rfl)

theorem fault?_isSome_of_ended {way : LifespanEnd} (hended : l.stage = .ended way)
    (h : l.stage.hasClosed = false) : way.fault?.isSome := by
  rw [hended] at h
  cases way with
  | closed outcome => cases h
  | _ => rfl

end Lifespan

end CatalogSchema
