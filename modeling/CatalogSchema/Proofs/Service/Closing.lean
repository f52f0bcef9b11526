import CatalogSchema.Proofs.Service.Lifespan

/-!
# The end of a lifespan

The pool is closed, and the watcher is asked to stop, just when serving has ended without a fault; when the
start fails, or serving is interrupted, the pool stays open and the watcher is not asked
(`Lifespan.closes_after_serving`, `Router.failed_start_leaves_the_pool_open`). `Router.lifespan` is a run of a
`Lifespan` in which the tasks go on whenever the lifespan waits, and nothing else happens beside it
(`Lifespan.executes_lifespan`).
-/

namespace CatalogSchema

/-- The calls that a lifespan itself makes. -/
def Call.isOwn : Call → Bool
  | createPool _ | serve | close => true
  | _ => false

theorem StartStage.isOwn_of_call? {stage : StartStage} {c : Call} (h : stage.call? = some c) :
    c.isOwn = false := by
  cases stage <;> cases h <;> rfl

theorem Watcher.isOwn_of_call? {settings : WatchSettings} {w : Watcher} {c : Call}
    (h : w.call? settings = some c) : c.isOwn = false := by
  cases w with
  | watching stage => cases stage <;> cases h <;> rfl
  | backingOff => cases h; rfl
  | stopped cause => cases h

theorem StartStage.Course.isOwn_eq_false {answer : Option String} {stage : StartStage} {outcomes : Outcomes}
    {result : Except Fault Snapshot} (h : Course answer stage outcomes result) :
    ∀ e ∈ outcomes, e.1.isOwn = false := by
  induction h with
  | finished result => exact fun e he => by cases he
  | call hc outcome rest ih => exact List.forall_mem_cons.2 ⟨isOwn_of_call? hc, ih⟩

theorem Backend.map_fst_outcomes (b : Backend) (earlier made : List Call) :
    (b.outcomes earlier made).map Prod.fst = made := by
  induction made generalizing earlier with
  | nil => rfl
  | cons c made ih => rw [outcomes, List.map_cons, ih]

/-! ## Watchers that lose no connection -/

namespace Watcher

/-- A connection was acquired for its watch, which has not failed since. -/
def holdsConnection : Watcher → Bool
  | watching .installing | watching .subscribing | watching .pausing | watching .pinging => true
  | _ => false

theorem holdsConnection_of_needsConnection {w : Watcher} (h : w.needsConnection) : w.holdsConnection := by
  cases w with
  | watching stage => cases stage <;> first | rfl | cases h
  | backingOff | stopped cause => cases h

theorem holdsConnection_of_step {w : Watcher} {outcome : Option Fault}
    (h : (w.step outcome).1.holdsConnection) : w = start ∧ outcome = none ∨ w.holdsConnection := by
  match w, outcome with
  | watching .acquiring, none => exact .inl ⟨rfl, rfl⟩
  | watching .installing, _ | watching .subscribing, _ | watching .pausing, _ | watching .pinging, _ =>
    exact .inr rfl
  | backingOff, none | backingOff, some _ | stopped _, _ | watching (.unsubscribing _), _ => cases h
  | watching .acquiring, some f | watching (.discarding f), _ =>
    simp only [step, WatchStage.next, afterWatch] at h
    split at h <;> cases h

end Watcher

theorem WatchTask.mem_inService (t : WatchTask) (outcome : Option Fault) :
    ∀ e ∈ t.inService outcome, e = .watch ∨ ∃ outcome, e = .wake outcome := by
  obtain ⟨w, begun, asked⟩ := t
  cases begun <;> cases asked <;> simp [inService]

namespace Service

variable {history : CatalogHistory} {s : Service} {w : Watcher}

/-- Its watcher can be started, and then it waits for no connection. -/
structure Ready (s : Service) : Prop where
  watches : s.traffic.router.watches
  served : s.traffic.served ≠ []
  connected : ∀ w, s.watcher? = some w → w.holdsConnection → s.connected

theorem Ready.not_waits (h : s.Ready) : ¬ s.Waits := by
  rintro (⟨-, hnot⟩ | ⟨w, hw, hneeds, hlost⟩)
  · exact hnot ⟨h.served, h.watches⟩
  · exact hlost (h.connected w hw (Watcher.holdsConnection_of_needsConnection hneeds))

/-- The steps of the watcher change nothing else of the router, and it loses no connection. -/
theorem Ready.step (history : CatalogHistory) (h : s.Ready) {e : Event}
    (he : e = .watch ∨ ∃ outcome, e = .wake outcome) :
    (s.step history e).Ready ∧
      ∃ w, (s.step history e).traffic.router = { s.traffic.router with watcher := w } := by
  rcases he with rfl | ⟨outcome, rfl⟩
  · rcases s.step_watch history with ⟨hsame, -⟩ | ⟨-, hstart⟩
    · rw [hsame]
      exact ⟨h, _, rfl⟩
    · rw [hstart]
      exact ⟨⟨h.watches, h.served, fun w hw hholds => by cases hw; cases hholds⟩, _, rfl⟩
  · cases hw : s.watcher? with
    | none =>
      have hsame : s.step history (.wake outcome) = s := by simp only [Service.step, hw]
      rw [hsame]
      exact ⟨h, _, rfl⟩
    | some w =>
      have hgoes : ¬ (outcome = none ∧ w.needsConnection ∧ ¬ s.connected) := fun hblocked =>
        h.not_waits (.inr ⟨w, hw, hblocked.2⟩)
      have htraffic : (s.step history (.wake outcome)).traffic =
          (s.withWatcher (w.step outcome).1).traffic :=
        (step_wake history hw outcome).resolve_left fun hsame => h.not_waits hsame.2.2
      have hconnected : s.connected ∨ w = .start ∧ outcome = none →
          (s.step history (.wake outcome)).connected := by
        simp only [Service.step, hw, if_neg hgoes, dropUnheard]
        by_cases hstart : w = .start ∧ outcome = none
        · rw [if_pos hstart]
          split <;> exact fun _ => rfl
        · rw [if_neg hstart]
          split <;> exact fun hc => hc.resolve_right hstart
      refine ⟨⟨?_, ?_, fun w' hw' hholds => hconnected ?_⟩, some (w.step outcome).1, by rw [htraffic]; rfl⟩
      · rw [htraffic]
        exact h.watches
      · rw [htraffic]
        exact h.served
      · rw [watcher?, htraffic] at hw'
        obtain rfl : (w.step outcome).1 = w' := Option.some.inj hw'
        rcases Watcher.holdsConnection_of_step hholds with hstart | hholds
        · exact .inr hstart
        · exact .inl (h.connected w hw hholds)

theorem Ready.run (history : CatalogHistory) (h : s.Ready) {es : List Event}
    (hes : ∀ e ∈ es, e = .watch ∨ ∃ outcome, e = .wake outcome) :
    (s.run history es).Ready ∧
      ∃ w, (s.run history es).traffic.router = { s.traffic.router with watcher := w } := by
  induction es generalizing s with
  | nil => exact ⟨h, _, rfl⟩
  | cons e es ih =>
    obtain ⟨he, hes⟩ := List.forall_mem_cons.1 hes
    obtain ⟨hready, w, hrouter⟩ := h.step history he
    obtain ⟨hready', w', hrouter'⟩ := ih hready hes
    exact ⟨hready', w', hrouter'.trans (by rw [hrouter])⟩

/-- The task takes its step. -/
theorem Ready.task_run (history : CatalogHistory) (h : s.Ready) (asked : Bool) (outcome : Option Fault) :
    let s' := s.run history ((s.task asked).inService outcome)
    s'.Ready ∧ (∃ w, s'.traffic.router = { s.traffic.router with watcher := w }) ∧
      s'.task (asked && s'.watcher?.isNone) = ((s.task asked).step outcome).1 := by
  obtain ⟨hready, hrouter⟩ := h.run history ((s.task asked).mem_inService outcome)
  exact ⟨hready, hrouter,
    (s.task_run history asked outcome).resolve_left fun hsame => h.not_waits hsame.2⟩

end Service

namespace Lifespan

variable {history : CatalogHistory} {l : Lifespan} {b : Backend}

/-! ## Tasks that go on -/

/-- The tasks beside a lifespan that has begun to serve. -/
def tasks (l : Lifespan) : Router.Tasks :=
  if l.service.traffic.router.watches then ⟨some (l.service.task l.asked), l.former⟩ else ⟨l.former, none⟩

theorem run_former (history : CatalogHistory) (l : Lifespan) (script : List (Option Fault)) :
    l.run history (script.map .former) = { l with former := l.former.map (·.run script) } := by
  induction script generalizing l with
  | nil =>
    obtain ⟨stage, service, asked, _ | t, calls⟩ := l <;> rfl
  | cons outcome script ih =>
    rw [List.map_cons, run_cons, ih]
    obtain ⟨stage, service, asked, _ | t, calls⟩ := l <;> rfl

theorem tasks_of_watches (hwatches : l.service.traffic.router.watches) :
    l.tasks = ⟨some (l.service.task l.asked), l.former⟩ := if_pos hwatches

theorem tasks_of_not_watches (hwatches : l.service.traffic.router.watches = false) :
    l.tasks = ⟨l.former, none⟩ := if_neg (by simp [hwatches])

/-- The steps of its task in a lifespan. -/
theorem run_watcher (history : CatalogHistory) (l : Lifespan) (hserved : l.stage.hasServed)
    (hready : l.service.Ready) (script : List (Option Fault)) :
    ∃ service asked, l.run history (script.map .watcher) = { l with service := service, asked := asked } ∧
      service.Ready ∧ (∃ w, service.traffic.router = { l.service.traffic.router with watcher := w }) ∧
      service.task asked = (l.service.task l.asked).run script := by
  induction script generalizing l with
  | nil => exact ⟨l.service, l.asked, rfl, hready, ⟨_, rfl⟩, rfl⟩
  | cons outcome script ih =>
    obtain ⟨hready', ⟨w, hrouter⟩, htask⟩ := hready.task_run history l.asked outcome
    have hstep : l.step history (.watcher outcome) =
        { l with
          service := l.service.run history ((l.service.task l.asked).inService outcome)
          asked := l.asked &&
            (l.service.run history ((l.service.task l.asked).inService outcome)).watcher?.isNone } := by
      rw [step, inService, task?_of_watches hready.watches hserved]
      rfl
    obtain ⟨service, asked, hrun, hready'', ⟨w', hrouter'⟩, htask'⟩ :=
      ih (l.step history (.watcher outcome)) (by rw [hstep]; exact hserved) (by rw [hstep]; exact hready')
    refine ⟨service, asked, ?_, hready'', ⟨w', ?_⟩, ?_⟩
    · rw [List.map_cons, run_cons, hrun, hstep]
    · rw [hrouter', hstep, hrouter]
    · rw [htask', hstep, WatchTask.run_cons, ← htask]

theorem exists_runOn_mapM_settle (settings : WatchSettings) (b : Backend) (j : Journal)
    (task : Option WatchTask) : ∃ script k made,
      (task.mapM (WatchTask.settle settings)).runOn b j = (.ok (task.map (·.run script)), k) ∧
        k.calls = j.calls ++ made ∧ ∀ c ∈ made, c.isOwn = false := by
  cases task with
  | none => exact ⟨[], j, [], rfl, (List.append_nil _).symm, by simp⟩
  | some t =>
    obtain ⟨script, k, made, hrun, hcalls, hmade⟩ := t.exists_runOn_settle settings b j
    refine ⟨script, k, made, ?_, hcalls, fun c hc => ?_⟩
    · rw [Option.mapM_some, map_eq_pure_bind, Session.runOn_bind, hrun]
      rfl
    · obtain ⟨w, hw⟩ := hmade c hc
      exact Watcher.isOwn_of_call? hw

/-- From one lifespan to the other its tasks have taken steps, and nothing else has happened. -/
structure Settles (l m : Lifespan) : Prop where
  stage : m.stage = l.stage
  calls : m.calls = l.calls
  ready : m.service.traffic.router.watches → m.service.Ready
  router : ∃ w, m.service.traffic.router = { l.service.traffic.router with watcher := w }

/-- What the tasks do while their lifespan waits are steps of theirs. -/
theorem exists_run_settle (history : CatalogHistory) (l : Lifespan) (hserved : l.stage.hasServed)
    (hready : l.service.traffic.router.watches → l.service.Ready) (settings : WatchSettings) (b : Backend)
    (j : Journal) :
    ∃ es k made, l.Settles (l.run history es) ∧
      (l.tasks.settle settings).runOn b j = (.ok (l.run history es).tasks, k) ∧
      k.calls = j.calls ++ made ∧ ∀ c ∈ made, c.isOwn = false := by
  obtain ⟨script, k, made, hformer, hcalls, hmade⟩ := exists_runOn_mapM_settle settings b j l.former
  have hrun := l.run_former history script
  cases hwatches : l.service.traffic.router.watches with
  | true =>
    obtain ⟨script', k', more, hwatcher, hcalls', hmore⟩ :=
      exists_runOn_mapM_settle settings b k (some (l.service.task l.asked))
    obtain ⟨service, asked, hrun', hready', hrouter, htask⟩ :=
      (l.run history (script.map .former)).run_watcher history
        (by rw [hrun]; exact hserved) (by rw [hrun]; exact hready hwatches) script'
    rw [← run_append, hrun] at hrun'
    rw [hrun] at hrouter htask
    refine ⟨script.map .former ++ script'.map .watcher, k', made ++ more, ?_, ?_, ?_, ?_⟩
    · rw [hrun']
      exact ⟨rfl, rfl, fun _ => hready', hrouter⟩
    · have htasks' : (l.run history (script.map .former ++ script'.map .watcher)).tasks =
          ⟨some ((l.service.task l.asked).run script'), l.former.map (WatchTask.run · script)⟩ := by
        rw [hrun', ← htask]
        exact tasks_of_watches hready'.watches
      rw [htasks', tasks_of_watches hwatches, Router.Tasks.settle, Session.runOn_bind, hformer]
      simp only [Session.runOn_bind, hwatcher, Session.runOn_pure, Option.map_some]
    · rw [hcalls', hcalls, List.append_assoc]
    · exact fun c hc => (List.mem_append.1 hc).elim (hmade c) (hmore c)
  | false =>
    refine ⟨script.map .former, k, made, ?_, ?_, hcalls, hmade⟩
    · rw [hrun]
      exact ⟨rfl, rfl, hready, ⟨_, rfl⟩⟩
    · have htasks : (l.run history (script.map .former)).tasks =
          ⟨l.former.map (WatchTask.run · script), none⟩ := by
        rw [hrun]
        exact tasks_of_not_watches hwatches
      rw [htasks, tasks_of_not_watches hwatches, Router.Tasks.settle, Session.runOn_bind]
      show (Session.runOn b j (l.former.mapM (WatchTask.settle settings) >>= _)) = _
      rw [Session.runOn_bind, hformer]
      rfl

/-! ## The first start -/

def withTraffic (l : Lifespan) (t : Traffic) : Lifespan :=
  { l with service := { l.service with traffic := t } }

theorem step_beside_look (hstarting : l.stage = .starting) (t : Traffic) (i : Nat) :
    (l.withTraffic t).step history (.beside (.look i)) =
      (l.withTraffic (t.step history (.look i))).afterStart := by
  obtain ⟨stage, service, asked, former, calls⟩ := l
  cases hstarting
  rfl

theorem step_beside_proceed (hstarting : l.stage = .starting) (t : Traffic) (i : Nat)
    (outcome : Option Fault) :
    (l.withTraffic t).step history (.beside (.proceed i outcome)) =
      (l.withTraffic (t.step history (.proceed i outcome))).afterStart := by
  obtain ⟨stage, service, asked, former, calls⟩ := l
  cases hstarting
  rfl

theorem afterStart_of_call? (l : Lifespan) {t : Traffic} {f : Flight} (hflights : t.flights = [f])
    (hcall : f.stage.call?.isSome) : (l.withTraffic t).afterStart = l.withTraffic t := by
  obtain ⟨stage, view⟩ := f
  rw [afterStart]
  split
  · next hhead =>
    rw [withTraffic, hflights] at hhead
    obtain rfl := Option.some.inj hhead
    cases hcall
  · next hhead =>
    rw [withTraffic, hflights] at hhead
    obtain rfl := Option.some.inj hhead
    cases hcall
  · rfl

/-- The only start has ended; when it came to a snapshot the router serves its schema. -/
structure Arrives (t u : Traffic) (result : Except Fault Snapshot) : Prop where
  stage : u.flights.head?.map Flight.stage = some (.finished result)
  router : u.router = result.toOption.elim t.router fun s => t.router.adopt (buildSchema s t.router.options)
  served : ∀ s, result = .ok s → u.served ≠ []

theorem arrives_land {t : Traffic} {f g : Flight} (hflights : t.flights = [f]) {result : Except Fault Snapshot}
    (hstage : g.stage = .finished result) (hg : g.Consistent history) : Arrives t (t.land 0 g) result := by
  obtain ⟨stage, view⟩ := g
  obtain rfl : stage = .finished result := hstage
  cases result with
  | ok s =>
    obtain ⟨v, rfl, -⟩ := hg
    exact ⟨by simp [Traffic.land, hflights], rfl, fun s' _ => by simp [Traffic.land]⟩
  | error f => exact ⟨by simp [Traffic.land, hflights], rfl, fun s hs => by cases hs⟩

theorem land_of_call? (t : Traffic) (i : Nat) {g : Flight} (hcall : g.stage.call?.isSome) :
    t.land i g = { t with flights := t.flights.set i g } := by
  obtain ⟨stage, view⟩ := g
  cases stage with
  | finished result => cases hcall
  | _ => rfl

/-- Before the query returns the start looks at the catalog, which has not changed. -/
theorem exists_run_look {answer : Option String} (hstarting : l.stage = .starting) {t : Traffic}
    {stage : StartStage} {view : Option Nat} (hflights : t.flights = [⟨stage, view⟩])
    (hcall : stage.call?.isSome) (hf : Flight.Consistent (fun _ => answer) ⟨stage, view⟩)
    (outcome : Option Fault) :
    ∃ es u view', (l.withTraffic t).run (fun _ => answer) es = l.withTraffic u ∧
      u.flights = [⟨stage, view'⟩] ∧ u.router = t.router ∧
      Flight.canProceed ⟨stage, view'⟩ outcome ∧ Flight.Consistent (fun _ => answer) ⟨stage, view'⟩ ∧
      Flight.next (fun _ => answer) ⟨stage, view'⟩ outcome = ⟨stage.next answer outcome, view'⟩ := by
  by_cases hlook : stage = .fetching ∧ view = none
  · obtain ⟨rfl, rfl⟩ := hlook
    refine ⟨[.beside (.look 0)], t.step (fun _ => answer) (.look 0), some t.version, ?_, ?_, ?_, ?_⟩
    · rw [run, List.foldl_cons, step_beside_look hstarting]
      exact afterStart_of_call? l (f := ⟨.fetching, some t.version⟩) (by simp [Traffic.step, hflights]) rfl
    · simp [Traffic.step, hflights]
    · simp [Traffic.step, hflights]
    · exact ⟨rfl, trivial, by cases outcome <;> rfl⟩
  · refine ⟨[], t, view, rfl, hflights, rfl, ?_, hf, ?_⟩
    · cases stage with
      | finished result => cases hcall
      | fetching =>
        cases view with
        | none => exact absurd ⟨rfl, rfl⟩ hlook
        | some v => rfl
      | _ => rfl
    · cases stage with
      | fetching =>
        cases view with
        | none => exact absurd ⟨rfl, rfl⟩ hlook
        | some v => rfl
      | _ => cases outcome <;> rfl

/-- The course of the first start is a run of its steps. -/
theorem exists_run_course {answer : Option String} (hstarting : l.stage = .starting) {stage : StartStage}
    {outcomes : Outcomes} {result : Except Fault Snapshot} (h : StartStage.Course answer stage outcomes result)
    (hcall : stage.call?.isSome) {t : Traffic} {view : Option Nat} (hflights : t.flights = [⟨stage, view⟩])
    (hf : Flight.Consistent (fun _ => answer) ⟨stage, view⟩) :
    ∃ es u, (l.withTraffic t).run (fun _ => answer) es = (l.withTraffic u).afterStart ∧
      Arrives t u result := by
  induction h generalizing t view with
  | finished result => cases hcall
  | @call stage c hc outcome outcomes result rest ih =>
    obtain ⟨es, u, view', hrun, hflights', hrouter, hcan, hf', hnext⟩ :=
      exists_run_look hstarting hflights hcall hf outcome
    have hg := hf'.next hcan
    have hstep : (l.withTraffic t).run (fun _ => answer) (es ++ [.beside (.proceed 0 outcome)]) =
        (l.withTraffic (u.land 0 ⟨stage.next answer outcome, view'⟩)).afterStart := by
      rw [run_append, hrun, ← hnext]
      simp only [run, List.foldl_cons, List.foldl_nil, step_beside_proceed hstarting, Traffic.step,
        hflights', List.getElem?_cons_zero, if_pos hcan]
    rw [hnext] at hg
    generalize stage.next answer outcome = next at rest ih hg hstep
    cases rest with
    | finished result =>
      obtain ⟨hstage, hrouter', hserved⟩ := arrives_land hflights' (g := ⟨.finished result, view'⟩) rfl hg
      exact ⟨_, _, hstep, hstage, hrouter ▸ hrouter', hserved⟩
    | call hc' outcome' rest' =>
      have hcall' : next.call?.isSome := by rw [hc']; rfl
      have hset : u.flights.set 0 ⟨next, view'⟩ = [⟨next, view'⟩] := by rw [hflights']; rfl
      rw [land_of_call? u 0 hcall', hset, afterStart_of_call? l rfl hcall'] at hstep
      obtain ⟨es', u', hrun', hstage, hrouter', hserved⟩ :=
        ih (t := { u with flights := [⟨next, view'⟩] }) hcall' rfl hg
      refine ⟨(es ++ [.beside (.proceed 0 outcome)]) ++ es', u', ?_, hstage, hrouter ▸ hrouter', hserved⟩
      rw [run_append, hstep, hrun']

/-! ## Serving and closing -/

theorem tasks_watcher (hserved : l.stage.hasServed) : l.tasks.watcher = l.watcher? := by
  cases hwatches : l.service.traffic.router.watches with
  | true =>
    rw [tasks_of_watches hwatches, watcher?, task?_of_watches hwatches hserved]
    rfl
  | false =>
    rw [tasks_of_not_watches hwatches, watcher?, task?_of_not_watches hwatches]
    rfl

theorem router_eq_keep (hserved : l.stage.hasServed) {r : Router}
    (hrouter : ∃ w, l.service.traffic.router = { r with watcher := w }) : l.router = r.keep l.tasks := by
  obtain ⟨w, hw⟩ := hrouter
  rw [router, Router.keep, tasks_watcher hserved, hw]

theorem tasks_close (hserving : l.stage = .serving) : l.close.tasks = l.tasks.cancel := by
  cases hwatches : l.service.traffic.router.watches with
  | true =>
    rw [tasks_of_watches hwatches, tasks_of_watches (l := l.close) hwatches, task_close hwatches hserving,
      close, task?_of_watches hwatches (by rw [hserving]; rfl)]
    rfl
  | false =>
    rw [tasks_of_not_watches hwatches, tasks_of_not_watches (l := l.close) hwatches, close,
      task?_of_not_watches hwatches]
    rfl

theorem Settles.exists_router {m : Lifespan} (h : l.Settles m) {r : Router}
    (hrouter : ∃ w, l.service.traffic.router = { r with watcher := w }) :
    ∃ w, m.service.traffic.router = { r with watcher := w } := by
  obtain ⟨w, hw⟩ := hrouter
  obtain ⟨w', hw'⟩ := h.router
  exact ⟨w', by rw [hw', hw]⟩

theorem filter_isOwn_append {made : List Call} (h : ∀ c ∈ made, c.isOwn = false) (more : List Call) :
    (made ++ more).filter Call.isOwn = more.filter Call.isOwn := by
  rw [List.filter_append, List.filter_eq_nil_iff.2 (by simpa using h), List.nil_append]

theorem step_own_some (hserving : l.stage = .serving) (f : Fault) :
    l.step history (.own (some f)) = { l with stage := .ended (.interrupted f) } := by
  obtain ⟨stage, service, asked, former, calls⟩ := l
  cases hserving
  rfl

theorem step_own_of_closing (hclosing : l.stage = .closing) (outcome : Option Fault) :
    l.step history (.own outcome) = { l with stage := .ended (.closed outcome) } := by
  obtain ⟨stage, service, asked, former, calls⟩ := l
  cases hclosing
  rfl

/-- The session makes the call that the lifespan has made last, and goes on and ends as one of its runs. -/
def Executes (history : CatalogHistory) (l : Lifespan) (c : Call)
    (x : Session (Router × Except Fault Router.Report)) (b : Backend) (j : Journal) : Prop :=
  ∃ es way r ending k made, x.runOn b j = (.ok (r, ending), k) ∧ k.calls = j.calls ++ c :: made ∧
    (l.run history es).stage = .ended way ∧ (l.run history es).router = r ∧
    (l.run history es).calls = l.calls ++ made.filter Call.isOwn ∧
    ∀ f, ending = .error f ↔ way.fault? = some f

/-- While the lifespan waits for the pool to be closed, the tasks go on. -/
theorem executes_close (history : CatalogHistory) (l : Lifespan) (hserving : l.stage = .serving)
    (hready : l.service.traffic.router.watches → l.service.Ready) {r : Router}
    (hrouter : ∃ w, l.service.traffic.router = { r with watcher := w }) (b : Backend) (j : Journal) :
    l.close.Executes history .close (r.close l.tasks) b j := by
  obtain ⟨es, k, made, hsettles, htasks, hcalls, hmade⟩ :=
    l.close.exists_run_settle history rfl hready r.settings b ⟨j.calls ++ [.close], j.records⟩
  rw [tasks_close hserving] at htasks
  generalize hm : l.close.run history es = m at hsettles htasks
  generalize hending : b.fault? j.calls .close = ending
  have hrun : l.close.run history (es ++ [.own ending]) = { m with stage := .ended (.closed ending) } := by
    rw [run_append, hm]
    exact step_own_of_closing hsettles.stage ending
  have hkeep : ({ m with stage := .ended (.closed ending) } : Lifespan).router = r.keep m.tasks :=
    router_eq_keep (l := { m with stage := .ended (.closed ending) }) rfl
      (hsettles.exists_router (l := l.close) hrouter)
  refine ⟨es ++ [.own ending], .closed ending, r.keep m.tasks,
    ending.elim (.ok ⟨l.tasks.watcher.any fun t => !t.watcher.isStopped,
      m.tasks.watcher.map (·.watcher.isCancelled)⟩) .error, k, made, ?_, by simp [hcalls], ?_⟩
  · rw [Router.close, Session.runOn_bind, Session.runOn_outcome?, hending]
    simp only [Session.runOn_bind, htasks]
    cases ending <;> rfl
  · rw [hrun, List.filter_eq_nil_iff.2 (by simpa using hmade), List.append_nil]
    exact ⟨rfl, hkeep, hsettles.calls, fun f => by cases ending <;> simp [LifespanEnd.fault?]⟩

/-- The tasks go on while the lifespan serves. -/
theorem executes_serve (history : CatalogHistory) (l : Lifespan) (hserving : l.stage = .serving)
    (hready : l.service.traffic.router.watches → l.service.Ready) {r : Router}
    (hrouter : ∃ w, l.service.traffic.router = { r with watcher := w }) (b : Backend) (j : Journal) :
    l.Executes history .serve (r.serve l.tasks) b j := by
  obtain ⟨es, k, made, hsettles, htasks, hcalls, hmade⟩ :=
    l.exists_run_settle history (by rw [hserving]; rfl) hready r.settings b
      ⟨j.calls ++ [.serve], j.records⟩
  generalize hm : l.run history es = m at hsettles htasks
  have hserving' : m.stage = .serving := hsettles.stage.trans hserving
  have hrouter' := hsettles.exists_router hrouter
  rw [Executes, Router.serve, Session.runOn_bind, Session.runOn_outcome?]
  simp only [Session.runOn_bind, htasks]
  cases hfault : b.fault? j.calls .serve with
  | some f =>
    have hrun : l.run history (es ++ [.own (some f)]) = { m with stage := .ended (.interrupted f) } := by
      rw [run_append, hm]
      exact step_own_some hserving' f
    have hkeep : ({ m with stage := .ended (.interrupted f) } : Lifespan).router = r.keep m.tasks :=
      router_eq_keep (l := { m with stage := .ended (.interrupted f) }) rfl hrouter'
    refine ⟨es ++ [.own (some f)], .interrupted f, r.keep m.tasks, .error f, k, made, rfl,
      by simp [hcalls], ?_⟩
    rw [hrun, List.filter_eq_nil_iff.2 (by simpa using hmade), List.append_nil]
    exact ⟨rfl, hkeep, hsettles.calls, by simp [LifespanEnd.fault?]⟩
  | none =>
    obtain ⟨es', way, r', ending, k', more, hclose, hcalls', hended, hrouter'', hown, hfault⟩ :=
      m.executes_close history hserving' hsettles.ready hrouter' b k
    refine ⟨es ++ .own none :: es', way, r', ending, k', made ++ .close :: more, hclose, ?_, ?_⟩
    · simp [hcalls', hcalls]
    · rw [run_append, hm, run_cons, step_own_none hserving', filter_isOwn_append hmade, ← hsettles.calls]
      exact ⟨hended, hrouter'', hown.trans (List.append_assoc ..), hfault⟩

/-! ## The whole lifespan -/

theorem router_of_not_served {r : Router} (hserved : l.stage.hasServed = false)
    (hrouter : l.service.traffic.router = { r with watcher := none })
    (hformer : l.former = r.watcher.map .running) : l.router = r := by
  have hnone : l.task? = none := if_neg (by simp [hserved])
  rw [router, watcher?, hnone, hrouter, hformer]
  obtain ⟨uri, options, watches, settings, metadata, _ | w⟩ := r <;> rfl

/-- Serving begins with a task for a watcher, if the router watches. -/
theorem tasks_serve {r : Router} {t : Traffic} (hwatcher : t.router.watcher = none)
    (hwatches : t.router.watches = r.watches) :
    ((initial r).withTraffic t).serve.tasks = if r.watches then r.tasks.watch else r.tasks := by
  cases hr : r.watches with
  | true =>
    rw [tasks_of_watches (hwatches.trans hr), serve, Service.task, Service.watcher?]
    simp only [withTraffic, hwatcher, hwatches, hr]
    rfl
  | false =>
    rw [tasks_of_not_watches (hwatches.trans hr), serve]
    simp only [withTraffic, hwatches, hr]
    rfl

/-- A lifespan is a run in which its start takes one step after the other, the tasks go on whenever it
waits, and nothing else happens beside it. -/
theorem executes_lifespan (r : Router) (b : Backend) (j : Journal) :
    (initial r).Executes (fun _ => b.answer) (.createPool r.uri) r.lifespan b j := by
  rw [Executes, Router.lifespan, Session.runOn_bind, Session.runOn_outcome?]
  cases hpool : b.fault? j.calls (.createPool r.uri) with
  | some f =>
    exact ⟨[.own (some f)], .noPool f, r, .error f, _, [], rfl, rfl, rfl,
      router_of_not_served rfl rfl rfl, rfl, by simp [LifespanEnd.fault?]⟩
  | none =>
    simp only [Session.runOn_bind, Session.runOn_log, Session.runOn_attempt]
    obtain ⟨result, k, made, hcourse, hcalls, hstart⟩ := r.exists_course_start b
      ⟨j.calls ++ [.createPool r.uri], j.records ++ [Log.Logger.router.info "Starting SchemaRouter"]⟩
    obtain ⟨es, t, hrun, hstage, hrouter, hserved⟩ :=
      exists_run_course (l := { initial r with stage := .starting }) rfl hcourse rfl
        (t := (initial r).service.traffic) rfl rfl
    have hmade : ∀ c ∈ made, c.isOwn = false := fun c hc => by
      rw [← b.map_fst_outcomes (j.calls ++ [.createPool r.uri]) made] at hc
      obtain ⟨e, he, rfl⟩ := List.mem_map.1 hc
      exact hcourse.isOwn_eq_false e he
    have hopened : (initial r).run (fun _ => b.answer) (.own none :: es) =
        (({ initial r with stage := .starting } : Lifespan).withTraffic t).afterStart := hrun
    rw [hstart]
    cases result with
    | error f =>
      have hafter : (({ initial r with stage := .starting } : Lifespan).withTraffic t).afterStart =
          { (initial r).withTraffic t with stage := .ended (.noStart f) } := by
        simp only [afterStart, withTraffic, hstage]
      refine ⟨.own none :: es, .noStart f, r, .error f, k, made, rfl, by simp [hcalls], ?_⟩
      rw [hopened, hafter, List.filter_eq_nil_iff.2 (by simpa using hmade)]
      exact ⟨rfl, router_of_not_served rfl hrouter rfl, rfl, by simp [LifespanEnd.fault?]⟩
    | ok s =>
      have hafter : (({ initial r with stage := .starting } : Lifespan).withTraffic t).afterStart =
          ((initial r).withTraffic t).serve := by
        simp only [afterStart, withTraffic, hstage]
        rfl
      have hwatcher : t.router.watcher = none := congrArg Router.watcher hrouter
      have hwatches : t.router.watches = r.watches := by rw [hrouter]; rfl
      have hready : t.router.watches → ((initial r).withTraffic t).serve.service.Ready := fun h =>
        ⟨h, hserved s rfl, fun w hw => by cases hwatcher.symm.trans hw⟩
      obtain ⟨es', way, r', ending, k', more, hserve, hcalls', hended, hrouter', hown, hfault⟩ :=
        ((initial r).withTraffic t).serve.executes_serve (fun _ => b.answer) rfl hready
          (r := r.adopt (buildSchema s r.options)) ⟨none, hrouter⟩ b k
      rw [tasks_serve hwatcher hwatches] at hserve
      refine ⟨.own none :: es ++ es', way, r', ending, k', made ++ .serve :: more, hserve, ?_, ?_⟩
      · simp [hcalls', hcalls]
      · rw [run_append, hopened, hafter]
        refine ⟨hended, hrouter', hown.trans ?_, hfault⟩
        rw [filter_isOwn_append hmade]
        rfl

/-- Whatever goes on beside it, a lifespan closes the pool just when serving has ended without a fault, and it
does so once. It asks the watcher to stop right before, so that the next thing that happens to the watcher is
the interruption, whatever it was doing; nobody waits for that. When the pool could not be opened, when the
start fails, and when serving is interrupted by a fault, the lifespan ends with the fault, the pool is not
closed, and the watcher that was created is not asked to stop. `Router.lifespan` is one of these runs. -/
theorem closes_after_serving (r : Router) :
    (∀ history es,
      let l := (initial r).run history es
      l.calls = l.stage.calls r.uri ∧ l.calls.count .close = l.stage.hasClosed.toNat ∧
        (l.stage.hasClosed ↔ ∃ before after, es = before ++ .own none :: after ∧
          ((initial r).run history before).stage = .serving) ∧
        (∀ before after, es = before ++ .own none :: after →
          ((initial r).run history before).stage = .serving →
          let serving := (initial r).run history before
          (r.watches → serving.task?.isSome) ∧ Option.Rel WatchTask.Obeys serving.watcher? l.watcher?) ∧
        (l.stage.hasClosed = false → l.asked = false ∧ ∀ way, l.stage = .ended way → way.fault?.isSome)) ∧
      ∀ b j, ∃ es way r' ending k made, r.lifespan.runOn b j = (.ok (r', ending), k) ∧
        k.calls = j.calls ++ made ∧
        let l := (initial r).run (fun _ => b.answer) es
        l.stage = .ended way ∧ l.router = r' ∧ l.calls = made.filter Call.isOwn ∧
          ∀ f, ending = .error f ↔ way.fault? = some f := by
  refine ⟨fun history es => ?_, fun b j => ?_⟩
  · intro l
    have hsound : l.Sound r.uri := (sound_initial r).run es
    refine ⟨hsound.calls, ?_, ⟨exists_end_of_serving rfl, ?_⟩, ?_,
      fun h => ⟨hsound.asked h, fun way hway => fault?_isSome_of_ended hway h⟩⟩
    · rw [hsound.calls, LifespanStage.count_calls]
    · rintro ⟨before, after, rfl, hserving⟩
      exact (obeys_after_serving _ hserving after).1
    · rintro before after rfl hserving
      refine ⟨fun hwatches => ?_, (obeys_after_serving _ hserving after).2⟩
      have hkept := (initial r).watches_run history before
      rw [task?_of_watches (hkept.trans hwatches) (by rw [hserving]; rfl)]
      rfl
  · obtain ⟨es, way, r', ending, k, made, hrun, hcalls, hended, hrouter, hown, hfault⟩ :=
      executes_lifespan r b j
    exact ⟨es, way, r', ending, k, .createPool r.uri :: made, hrun, hcalls, hended, hrouter, hown, hfault⟩

/-- Without faults the first start leads to serving, with a task for a watcher. -/
theorem exists_run_first_start (history : CatalogHistory) (r : Router) (hwatches : r.watches) {s : Snapshot}
    (h : Snapshot.ofAnswer (history 0) = .ok s) :
    ∃ l, (initial r).run history (.own none :: (Service.Event.starting 0).map .beside) = l ∧
      l.stage = .serving ∧ l.service.Ready ∧ l.service.task l.asked = .created := by
  refine ⟨((initial r).withTraffic ⟨{ r with watcher := none, metadata := some (buildSchema s r.options) }, 0,
    [⟨.finished (.ok s), some 0⟩], [0], [0]⟩).serve, ?_, rfl, ?_, rfl⟩
  · simp only [run, Service.Event.starting, List.map_cons, List.map_nil, List.foldl_cons, List.foldl_nil]
    simp [step, inService, initial, Service.run, Service.step, Service.move, Traffic.step, Traffic.land,
      Flight.next, StartStage.next, Flight.canProceed, Service.initial, Flight.launched, h, afterStart,
      LifespanStage.hasPool]
    rfl
  · exact ⟨hwatches, List.cons_ne_nil _ _, fun w hw => by cases hw⟩

/-- The pool is closed in the middle of a watch, which is interrupted when its task takes a step again. -/
theorem run_closing (history : CatalogHistory) (l : Lifespan) (hserving : l.stage = .serving)
    (hready : l.service.Ready) (script : List (Option Fault)) (outcome : Option Fault) :
    let l' := l.run history (script.map .watcher ++ [.own none, .own outcome])
    l'.stage = .ended (.closed outcome) ∧ ∀ later : List (Option Fault),
      (l'.run history (later.map .watcher)).watcher? =
        some (((l.service.task l.asked).run script).ask.run later) := by
  obtain ⟨service, asked, hrun, hready', -, htask⟩ :=
    l.run_watcher history (by rw [hserving]; rfl) hready script
  generalize hm : ({ l with service := service, asked := asked } : Lifespan) = m at hrun
  have hserving' : m.stage = .serving := by rw [← hm]; exact hserving
  have htask' : m.service.task m.asked = (l.service.task l.asked).run script := by rw [← hm]; exact htask
  have hready' : m.service.Ready := by rw [← hm]; exact hready'
  have hl : l.run history (script.map .watcher ++ [.own none, .own outcome]) =
      { m.close with stage := .ended (.closed outcome) } := by
    rw [run_append, hrun, run_cons, step_own_none hserving', run_cons, step_own_of_closing rfl]
    rfl
  rw [hl]
  refine ⟨rfl, fun later => ?_⟩
  obtain ⟨service', asked', hrun', hready'', -, htask''⟩ :=
    ({ m.close with stage := .ended (.closed outcome) } : Lifespan).run_watcher history rfl hready' later
  rw [hrun', watcher?, task?_of_watches hready''.watches rfl, ← htask', ← task_close hready'.watches hserving',
    ← htask'']
  rfl

/-- The pool is closed while the watcher of the small catalog registers its listener. The watcher is
interrupted there when the lifespan has ended, and has yet to hand back its connection. -/
theorem sample_closes_before_its_watcher_stops :
    let history : CatalogHistory := fun _ => some (Snapshot.sample.encode.render .compact)
    ∃ l, (initial (.new none .default true)).run history
        ((.own none :: (Service.Event.starting 0).map .beside) ++
          ([none, none, none].map .watcher ++ [.own none, .own none])) = l ∧
      l.stage = .ended (.closed none) ∧ l.calls.count .close = 1 ∧
      l.watcher? = some ⟨.watching .subscribing, true, true⟩ ∧
      (l.run history [.watcher none]).watcher? = some (.running (.watching (.discarding .cancellation))) := by
  intro history
  obtain ⟨serving, hserving, hstage, hready, htask⟩ :=
    exists_run_first_start history (.new none .default true) rfl Snapshot.ofAnswer_sample
  obtain ⟨-, hcount, -⟩ := (closes_after_serving (.new none .default true)).1 history
    ((.own none :: (Service.Event.starting 0).map .beside) ++
      ([none, none, none].map .watcher ++ [.own none, .own none]))
  obtain ⟨hended, hlater⟩ := serving.run_closing history hstage hready [none, none, none] none
  rw [run_append, hserving] at hcount ⊢
  rw [htask] at hlater
  exact ⟨_, rfl, hended, hcount.trans (congrArg (·.hasClosed.toNat) hended), hlater [], hlater [none]⟩

end Lifespan

/-- The answer of the database is empty: the pool was opened, the start fails, and nothing closes the pool. -/
theorem Router.failed_start_leaves_the_pool_open :
    let run := (Router.new none .default false).lifespan.runOn ⟨none, fun _ _ => none⟩ .empty
    run.1 = .ok (Router.new none .default false, .error (.raised .value "No introspection data found.")) ∧
      run.2.calls = [.createPool none, .acquire, .begin, .fetch, .commit, .discard] ∧
      .close ∉ run.2.calls :=
  ⟨rfl, rfl, by decide⟩

end CatalogSchema
