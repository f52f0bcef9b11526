import CatalogSchema.Proofs.Service.SerialStarts

/-!
# A router that watches for changes

`Service` is a router in its lifespan: the start it begins with, then its watcher, whose steps are
`Watcher.step`, and a start for each notification that is delivered; others may be launched besides. The
database notifies the watcher of a change when its listener is registered as the change commits, and of no
other change; a notification that is under way when the listener goes is dropped. So what the watcher was told
is served in the end (`delivered_changes_are_served`), and nothing is missed while the listener stays
registered (`watched_changes_are_served`). But nothing is introspected when a listener is registered: a change
before the first one, or between a lost watch and the next, goes unnoticed (`undelivered_changes_are_missed`).
-/

namespace CatalogSchema

namespace Watcher

/-- Its listener is registered. -/
def isRegistered : Watcher → Bool
  | watching .pausing | watching .pinging => true
  | _ => false

/-- What it waits for comes over the connection of its watch. -/
def needsConnection : Watcher → Bool
  | watching .installing | watching .subscribing | watching .pinging => true
  | _ => false

end Watcher

/-- A router in its lifespan. -/
structure Service where
  traffic : Traffic
  /-- Whether the connection of the watch is up. -/
  connected : Bool
  /-- The versions whose notification is under way. -/
  pending : List Nat
  /-- The versions whose notification was delivered. -/
  delivered : List Nat

namespace Traffic

variable {history : CatalogHistory} {t u : Traffic}

/-- A version is covered when it was looked at, or a newer one, or a start has yet to look. -/
def Covers (t : Traffic) (w : Nat) : Prop := (∃ v ∈ t.views, w ≤ v) ∨ ∃ f ∈ t.flights, f.view = none

theorem Covers.set {i : Nat} {f g : Flight} {w : Nat} (h : Covers t w) (hi : t.flights[i]? = some f)
    (hview : f.view = g.view) : (∃ v ∈ t.views, w ≤ v) ∨ ∃ f ∈ t.flights.set i g, f.view = none := by
  refine h.imp_right ?_
  rintro ⟨f', hf', hnone⟩
  rcases mem_set_or_eq hf' hi g with hf' | rfl
  · exact ⟨f', hf', hnone⟩
  · exact ⟨g, List.mem_set (List.getElem?_eq_some_iff.1 hi).1 _, hview ▸ hnone⟩

/-- A version that is not newer than the present one stays covered. -/
theorem Covers.move {e : Event} {w : Nat} (h : Covers t w) (hw : w ≤ t.version)
    (m : Move history t e u) : Covers u w := by
  cases m with
  | idle => exact h
  | change => exact h
  | launch => exact .inr ⟨.launched, by simp, rfl⟩
  | look hi => exact .inl ⟨t.version, by simp, hw⟩
  | proceed hi hf hg => exact h.set hi rfl
  | land hi hf hg hv hs => exact h.set hi rfl

theorem Move.version_le {e : Event} (m : Move history t e u) : t.version ≤ u.version := by
  cases m with
  | change => exact Nat.le_succ _
  | _ => exact Nat.le_refl _

theorem Move.flights_ne_nil {e : Event} (m : Move history t e u) (h : t.flights ≠ []) :
    u.flights ≠ [] := by
  cases m with
  | idle | change => exact h
  | launch => exact List.append_ne_nil_of_right_ne_nil _ (by simp)
  | look hi | proceed hi hf hg | land hi hf hg hv hs => simpa using h

/-- A step changes nothing of the router but the metadata. -/
theorem exists_metadata_step (history : CatalogHistory) (t : Traffic) (e : Event) :
    ∃ m, (t.step history e).router = { t.router with metadata := m } := by
  cases e with
  | change | launch => exact ⟨_, rfl⟩
  | look i =>
    simp only [step]
    split <;> exact ⟨_, rfl⟩
  | proceed i outcome =>
    simp only [step]
    split
    · split
      · rw [land]
        split <;> exact ⟨_, rfl⟩
      · exact ⟨_, rfl⟩
    · exact ⟨_, rfl⟩

theorem watcher_step (t : Traffic) (e : Event) : (t.step history e).router.watcher = t.router.watcher := by
  obtain ⟨m, hm⟩ := t.exists_metadata_step history e
  rw [hm]

/-- Only a change makes a new version, and what was looked at stays so. -/
theorem step_of_ne_change (t : Traffic) {e : Event} (he : e ≠ .change) :
    (t.step history e).version = t.version ∧ t.views ⊆ (t.step history e).views := by
  cases e with
  | change => exact absurd rfl he
  | launch => exact ⟨rfl, fun _ h => h⟩
  | look i =>
    simp only [step]
    split
    · exact ⟨rfl, fun _ h => List.mem_append_left _ h⟩
    · exact ⟨rfl, fun _ h => h⟩
  | proceed i outcome =>
    simp only [step]
    split
    · split
      · rw [land]
        split <;> exact ⟨rfl, fun _ h => h⟩
      · exact ⟨rfl, fun _ h => h⟩
    · exact ⟨rfl, fun _ h => h⟩

/-- What is served does not depend on the watcher. -/
theorem Sound.withWatcher (h : Sound history t) (w : Option Watcher) :
    Sound history { t with router := { t.router with watcher := w } } :=
  ⟨h.consistent, h.view_mem, h.views_le, h.views_ascend, h.served_mem, h.serves⟩

theorem Ordered.withWatcher (h : Ordered t) (w : Option Watcher) :
    Ordered { t with router := { t.router with watcher := w } } := ⟨h.newest, h.ascend, h.arrived⟩

end Traffic

namespace Service

inductive Event where
  | change
  | look (i : Nat)
  | proceed (i : Nat) (outcome : Option Fault)
  /-- The watcher is started. -/
  | watch
  /-- The call that the watcher waits for ends. -/
  | wake (outcome : Option Fault)
  /-- A notification is delivered. -/
  | deliver
  /-- A start is launched that the watcher does not ask for. -/
  | launch
  /-- The connection of the watch is lost. -/
  | lose

/-- The lifespan begins with a start. -/
def initial (r : Router) : Service := ⟨⟨r, 0, [.launched], [], []⟩, false, [], []⟩

def watcher? (s : Service) : Option Watcher := s.traffic.router.watcher

def listens (s : Service) : Bool := s.connected && s.watcher?.any Watcher.isRegistered

def withWatcher (s : Service) (w : Watcher) : Service :=
  { s with traffic := { s.traffic with router := { s.traffic.router with watcher := some w } } }

/-- Without a listener the notifications that are under way are dropped. -/
def dropUnheard (s : Service) : Service := if s.listens then s else { s with pending := [] }

variable (history : CatalogHistory)

def move (s : Service) (e : Traffic.Event) : Service := { s with traffic := s.traffic.step history e }

/-- One step; an event that cannot happen changes nothing. -/
def step (s : Service) : Event → Service
  | .change =>
    let t := s.move history .change
    if s.listens then { t with pending := s.pending ++ [t.traffic.version] }
    else t
  | .look i => s.move history (.look i)
  | .proceed i outcome => s.move history (.proceed i outcome)
  | .watch =>
    -- only after the first start, and only once
    if s.traffic.served ≠ [] ∧ s.traffic.router.watches ∧ s.watcher? = none then s.withWatcher .start
    else s
  | .wake outcome =>
    match s.watcher? with
    | none => s
    | some w =>
      if outcome = none ∧ w.needsConnection ∧ ¬ s.connected then s
      else
        let s := s.withWatcher (w.step outcome).1
        (if w = .start ∧ outcome = none then { s with connected := true } else s).dropUnheard
  | .deliver =>
    match s.pending with
    | [] => s
    | v :: vs => { s.move history .launch with pending := vs, delivered := s.delivered ++ [v] }
  | .launch => s.move history .launch
  | .lose => { s with connected := false }.dropUnheard

def run (s : Service) (es : List Event) : Service := es.foldl (step history) s

variable {history : CatalogHistory} {s : Service}

theorem run_cons (e : Event) (es : List Event) :
    s.run history (e :: es) = (s.step history e).run history es := rfl

theorem run_append (es es' : List Event) :
    s.run history (es ++ es') = (s.run history es).run history es' := List.foldl_append ..

/-! ## What the watcher was told -/

/-- A start looks at the catalog only when no other one holds a view. -/
def Event.IsSerial (s : Service) (e : Event) : Prop :=
  ∀ i, e = .look i → ∀ f ∈ s.traffic.flights, ¬ f.IsLooking

/-- In no step of the run a start looks at the catalog while another one holds a view. -/
def IsSerial (history : CatalogHistory) : Service → List Event → Prop := AlongRun (step history) Event.IsSerial

/-- What holds when the starts look one after the other. -/
structure Sound (history : CatalogHistory) (s : Service) : Prop where
  traffic : s.traffic.Sound history
  ordered : s.traffic.Ordered
  launched : s.traffic.flights ≠ []
  pending_le : ∀ w ∈ s.pending, w ≤ s.traffic.version
  delivered_le : ∀ w ∈ s.delivered, w ≤ s.traffic.version
  covered : ∀ w ∈ s.delivered, s.traffic.Covers w

theorem sound_initial (r : Router) : Sound history (initial r) := by
  have hsound : Traffic.Sound history (.initial r) := Traffic.sound_initial r
  have hserial : Traffic.Event.launch.IsSerial (.initial r) := Traffic.Event.isSerial_of_ne (by simp) _
  exact
    { traffic := hsound.step .launch
      ordered := (Traffic.ordered_initial r).move hsound hserial .launch
      launched := by simp [initial]
      pending_le := by simp [initial]
      delivered_le := by simp [initial]
      covered := by simp [initial] }

theorem Sound.withWatcher (h : Sound history s) (w : Watcher) : Sound history (s.withWatcher w) :=
  ⟨h.traffic.withWatcher _, h.ordered.withWatcher _, h.launched, h.pending_le, h.delivered_le, h.covered⟩

theorem Sound.withConnected (h : Sound history s) (connected : Bool) :
    Sound history { s with connected := connected } :=
  ⟨h.traffic, h.ordered, h.launched, h.pending_le, h.delivered_le, h.covered⟩

theorem Sound.dropUnheard (h : Sound history s) : Sound history s.dropUnheard := by
  rw [Service.dropUnheard]
  split
  · exact h
  · exact { h with pending_le := fun w hw => by cases hw }

theorem Sound.move (h : Sound history s) {e : Traffic.Event} (he : e.IsSerial s.traffic) :
    Sound history (s.move history e) where
  traffic := h.traffic.step e
  ordered := h.ordered.move h.traffic he (Traffic.move_step h.traffic.consistent e)
  launched := (Traffic.move_step h.traffic.consistent e).flights_ne_nil h.launched
  pending_le w hw := (h.pending_le w hw).trans (Traffic.move_step h.traffic.consistent e).version_le
  delivered_le w hw := (h.delivered_le w hw).trans (Traffic.move_step h.traffic.consistent e).version_le
  covered w hw := (h.covered w hw).move (h.delivered_le w hw) (Traffic.move_step h.traffic.consistent e)

theorem Sound.step (h : Sound history s) {e : Event} (he : e.IsSerial s) :
    Sound history (s.step history e) := by
  have hserial {e : Traffic.Event} (hne : ∀ i, e ≠ .look i) := Traffic.Event.isSerial_of_ne hne s.traffic
  cases e with
  | change =>
    have hmove : Sound history (s.move history .change) := h.move (hserial (by simp))
    simp only [Service.step]
    split
    · refine { hmove with pending_le := fun w hw => ?_ }
      rcases List.mem_append.1 hw with hw | hw
      · exact hmove.pending_le w hw
      · exact Nat.le_of_eq (List.mem_singleton.1 hw)
    · exact hmove
  | look i => exact h.move (fun j hj => he j (by cases hj; rfl))
  | proceed i outcome => exact h.move (hserial (by simp))
  | watch =>
    simp only [Service.step]
    split
    · exact h.withWatcher _
    · exact h
  | wake outcome =>
    simp only [Service.step]
    split
    · exact h
    · next w _ =>
      have hw : Sound history (s.withWatcher (w.step outcome).1) := h.withWatcher _
      split
      · exact h
      refine Sound.dropUnheard ?_
      split
      · exact hw.withConnected true
      · exact hw
  | deliver =>
    simp only [Service.step]
    split
    · exact h
    · next v vs hpending =>
      have hmove : Sound history (s.move history .launch) := h.move (hserial (by simp))
      have hle : ∀ w ∈ v :: vs, w ≤ (s.move history .launch).traffic.version := by
        rw [← hpending]
        exact hmove.pending_le
      refine { hmove with
        pending_le := fun w hw => hle w (List.mem_cons_of_mem _ hw)
        delivered_le := fun w hw => ?_
        -- the start that is launched for it has yet to look
        covered := fun w hw => .inr ⟨.launched, by simp [Service.move, Traffic.step], rfl⟩ }
      rcases List.mem_append.1 hw with hw | hw
      · exact hmove.delivered_le w hw
      · exact hle w (List.mem_singleton.1 hw ▸ List.mem_cons_self)
  | launch => exact h.move (hserial (by simp))
  | lose => exact (h.withConnected false).dropUnheard

theorem Sound.run (h : Sound history s) {es : List Event} (hes : IsSerial history s es) :
    Sound history (s.run history es) := hes.invariant (fun _ _ hs he => hs.step he) h

/-! ## Runs -/

/-- The steps of a start that was launched, when nothing goes wrong. -/
def Event.starting (i : Nat) : List Event :=
  [.proceed i none, .proceed i none, .look i, .proceed i none, .proceed i none, .proceed i none]

/-- The steps of a watcher from its start to its registration. -/
def Event.registration : List Event := [.wake none, .wake none, .wake none]

theorem run_starting (s : Service) (i : Nat) :
    s.run history (Event.starting i) =
      { s with traffic := s.traffic.run history (Traffic.Event.reading i ++ [.proceed i none]) } := rfl

theorem run_first_start (r : Router) {a : Snapshot} (h : Snapshot.ofAnswer (history 0) = .ok a) :
    (initial r).run history (Event.starting 0) =
      ⟨⟨r.adopt (buildSchema a r.options), 0, [⟨.finished (.ok a), some 0⟩], [0], [0]⟩, false, [], []⟩ := by
  have hwhole : (Traffic.initial r).run history (Traffic.Event.whole 0) =
      ⟨r.adopt (buildSchema a r.options), 0, [⟨.finished (.ok a), some 0⟩], [0], [0]⟩ := Traffic.run_whole h
  rw [run_starting, ← hwhole]
  rfl

theorem Event.isSerial_of_ne {e : Event} (h : ∀ i, e ≠ .look i) (s : Service) : e.IsSerial s :=
  fun i hi => absurd hi (h i)

/-- A start is serial in a service as it is among the starts alone. -/
theorem isSerial_starting {i : Nat}
    (h : Traffic.IsSerial history s.traffic (Traffic.Event.reading i ++ [.proceed i none])) :
    IsSerial history s (Event.starting i) := by
  have hproceed (u : Service) : (Event.proceed i none).IsSerial u := Event.isSerial_of_ne (by simp) u
  refine ⟨hproceed _, hproceed _, fun j hj => ?_, hproceed _, hproceed _, hproceed _, trivial⟩
  cases hj
  exact h.2.2.1 i rfl

/-- The router of the small catalog after the first start, its watcher waiting between two pings. -/
def watchingSample : Router :=
  { Router.new none .default true with
    metadata := some (buildSchema .earlierSample .default)
    watcher := some (.watching .pausing) }

/-! ## What is served -/

/-- The notification of the present version is under way or was delivered, or it was looked at. -/
def Knows (s : Service) : Prop :=
  s.traffic.version ∈ s.pending ∨ s.traffic.version ∈ s.delivered ∨ s.traffic.version ∈ s.traffic.views

/-- Once all starts have ended well, no version is newer than the one that is served which was looked at or
whose notification was delivered. -/
theorem Sound.exists_serves (h : Sound history s) (hlanded : ∀ f ∈ s.traffic.flights, f.IsLanded) :
    ∃ v ≤ s.traffic.version, s.traffic.router.Serves (history v) ∧
      (∀ w ∈ s.traffic.views, w ≤ v) ∧ ∀ w ∈ s.delivered, w ≤ v := by
  have hview (f : Flight) (hf : f ∈ s.traffic.flights) : ∃ v ∈ s.traffic.views, f.view = some v := by
    obtain ⟨v, hv⟩ := (h.traffic.consistent f hf).exists_view (hlanded f hf)
    exact ⟨v, h.traffic.view_mem f hf v hv, hv⟩
  obtain ⟨v, hnewest⟩ : ∃ v, s.traffic.views.getLast? = some v := by
    obtain ⟨f, hf⟩ := List.exists_mem_of_ne_nil _ h.launched
    obtain ⟨v, hv, -⟩ := hview f hf
    exact ⟨_, List.getLast?_eq_some_getLast (List.ne_nil_of_mem hv)⟩
  have hle : v ≤ s.traffic.version := h.traffic.views_le v (List.mem_of_getLast? hnewest)
  have hseen (w : Nat) (hw : w ∈ s.traffic.views) : w ≤ v :=
    Traffic.le_getLast h.traffic.views_ascend hnewest hw
  refine ⟨v, hle, h.ordered.serves_newest h.traffic hlanded hnewest, hseen, fun w hw => ?_⟩
  rcases h.covered w hw with ⟨x, hx, hwx⟩ | ⟨f, hf, hnone⟩
  · exact hwx.trans (hseen x hx)
  · obtain ⟨x, -, hx⟩ := hview f hf
    rw [hnone] at hx
    cases hx

/-- Once no notification is under way and all starts have ended well, the present version is served if it is
known. -/
theorem Sound.serves_present (h : Sound history s) (hpending : s.pending = [])
    (hlanded : ∀ f ∈ s.traffic.flights, f.IsLanded) (hk : s.Knows) :
    s.traffic.router.Serves (history s.traffic.version) := by
  obtain ⟨v, hle, hserves, hseen, htold⟩ := h.exists_serves hlanded
  have hge : s.traffic.version ≤ v := by
    rcases hk with hp | hd | hv
    · rw [hpending] at hp
      cases hp
    · exact htold _ hd
    · exact hseen _ hv
  rwa [Nat.le_antisymm hge hle]

/-- When the starts look one after the other, and once they all have ended well, every change whose
notification was delivered is served; with no notification under way the schema is the present one, unless
the watcher was not told of its last change and no start has looked since. -/
theorem delivered_changes_are_served (history : CatalogHistory) (r : Router) (es : List Event)
    (h : IsSerial history (initial r) es) :
    let s := (initial r).run history es
    (∀ f ∈ s.traffic.flights, f.IsLanded) →
      (∃ v ≤ s.traffic.version, s.traffic.router.Serves (history v) ∧ ∀ w ∈ s.delivered, w ≤ v) ∧
        (s.pending = [] → s.Knows → s.traffic.router.Serves (history s.traffic.version)) := by
  intro s hlanded
  have hs : Sound history s := (sound_initial r).run h
  obtain ⟨v, hle, hserves, -, htold⟩ := hs.exists_serves hlanded
  exact ⟨⟨v, hle, hserves, htold⟩, fun hpending hk => hs.serves_present hpending hlanded hk⟩

/-- The watcher is registered, and then a change commits and is told to it. -/
def Event.notification : List Event := .watch :: (registration ++ [.change, .deliver])

/-- A change that is noticed, and the start that it causes. -/
def Event.noticed : List Event := starting 0 ++ (notification ++ starting 1)

theorem noticed_change_is_served :
    IsSerial .sample (initial (.new none .default true)) Event.noticed ∧
      let s := (initial (.new none .default true)).run .sample Event.noticed
      (∀ f ∈ s.traffic.flights, f.IsLanded) ∧ s.pending = [] ∧ s.Knows ∧ s.delivered = [1] ∧
        s.traffic.router.Serves (CatalogHistory.sample s.traffic.version) := by
  let t : Traffic := ⟨watchingSample, 1, [⟨.finished (.ok .earlierSample), some 0⟩], [0], [0]⟩
  let s : Service := ⟨{ t with flights := t.flights ++ [.launched] }, true, [], [1]⟩
  have hstart : (initial (.new none .default true)).run .sample (Event.starting 0) = _ :=
    run_first_start _ Snapshot.ofAnswer_earlierSample
  have hnotified : ((initial (.new none .default true)).run .sample (Event.starting 0)).run .sample
      Event.notification = s := by
    rw [hstart]
    rfl
  have hwhole : t.run .sample (Traffic.Event.whole 1) = _ := Traffic.run_whole Snapshot.ofAnswer_sample
  have hrun : (initial (.new none .default true)).run .sample Event.noticed =
      { s with traffic := t.run .sample (Traffic.Event.whole 1) } := by
    rw [Event.noticed, run_append, run_append, hnotified, run_starting, Traffic.Event.whole,
      Traffic.run_cons]
    rfl
  have hserial : IsSerial .sample (initial (.new none .default true)) Event.noticed := by
    have hother {e : Event} (he : ∀ i, e ≠ .look i) (u : Service) := Event.isSerial_of_ne he u
    have hwholes : Traffic.IsSerial .sample (.initial (.new none .default true)) (Traffic.Event.whole 0) :=
      Traffic.isSerial_whole (by simp [Traffic.initial])
    have hfirst : IsSerial .sample (initial (.new none .default true)) (Event.starting 0) :=
      isSerial_starting hwholes.2
    have hsecond : Traffic.IsSerial .sample t (Traffic.Event.whole 1) :=
      Traffic.isSerial_whole (by simp [t, Flight.IsLooking, StartStage.call?])
    refine hfirst.append (AlongRun.append ?_ ?_)
    · refine ⟨hother ?_ _, hother ?_ _, hother ?_ _, hother ?_ _, hother ?_ _, hother ?_ _, trivial⟩ <;> simp
    · rw [← run, ← run, hnotified]
      exact isSerial_starting hsecond.2
  have hlanded : ∀ f ∈ (t.run .sample (Traffic.Event.whole 1)).flights, f.IsLanded := by
    rw [hwhole]
    simp [t, Flight.IsLanded]
  have hknows : Knows { s with traffic := t.run .sample (Traffic.Event.whole 1) } := by
    rw [hwhole]
    exact .inr (.inl List.mem_cons_self)
  have hserved := delivered_changes_are_served .sample (.new none .default true) Event.noticed hserial
  rw [hrun] at hserved ⊢
  exact ⟨hserial, hlanded, rfl, hknows, rfl, (hserved hlanded).2 rfl hknows⟩

/-! ## While the listener is registered -/

/-- The connection of the watch holds, and no call over it fails. -/
def Event.IsCalm : Event → Prop
  | .lose => False
  | .wake outcome => outcome = none
  | _ => True

theorem listens_iff : s.listens ↔
    s.connected ∧ (s.watcher? = some (.watching .pausing) ∨ s.watcher? = some (.watching .pinging)) := by
  rw [listens, Bool.and_eq_true]
  refine and_congr_right fun _ => ?_
  cases s.watcher? with
  | none => simp
  | some w =>
    cases w with
    | watching stage => cases stage <;> simp [Watcher.isRegistered]
    | backingOff | stopped cause => simp [Watcher.isRegistered]

theorem listens_move (hl : s.listens) (e : Traffic.Event) : (s.move history e).listens := by
  have hw : (s.move history e).watcher? = s.watcher? := s.traffic.watcher_step e
  rw [listens, hw]
  exact hl

theorem knows_move (hk : s.Knows) {e : Traffic.Event} (he : e ≠ .change) : (s.move history e).Knows := by
  obtain ⟨hversion, hviews⟩ : (s.traffic.step history e).version = s.traffic.version ∧
      s.traffic.views ⊆ (s.traffic.step history e).views := s.traffic.step_of_ne_change he
  rw [Knows, move, hversion]
  exact hk.imp_right fun h => h.imp_right fun hv => hviews hv

/-- As long as its connection holds the watcher stays registered and knows the present version. -/
theorem known_step (hl : s.listens) (hk : s.Knows) {e : Event} (he : e.IsCalm) :
    (s.step history e).listens ∧ (s.step history e).Knows := by
  cases e with
  | change =>
    have hmove : (s.move history .change).listens := listens_move hl _
    simp only [step, hl, ↓reduceIte]
    exact ⟨hmove, .inl (by simp [move])⟩
  | look i => exact ⟨listens_move hl _, knows_move hk (by simp)⟩
  | proceed i outcome => exact ⟨listens_move hl _, knows_move hk (by simp)⟩
  | watch =>
    have hw : s.watcher? ≠ none := by
      rcases (listens_iff.1 hl).2 with hw | hw <;> simp [hw]
    simp only [step, hw, and_false, ↓reduceIte]
    exact ⟨hl, hk⟩
  | wake outcome =>
    obtain rfl : outcome = none := he
    obtain ⟨hc, hw | hw⟩ := listens_iff.1 hl
    · have hnext : (s.withWatcher (.watching .pinging)).listens := listens_iff.2 ⟨hc, .inr rfl⟩
      have hstep : s.step history (.wake none) = (s.withWatcher (.watching .pinging)).dropUnheard := by
        simp [step, hw, Watcher.needsConnection, Watcher.start, Watcher.step, WatchStage.next]
      rw [hstep, dropUnheard, if_pos hnext]
      exact ⟨hnext, hk⟩
    · have hnext : (s.withWatcher (.watching .pausing)).listens := listens_iff.2 ⟨hc, .inl rfl⟩
      have hstep : s.step history (.wake none) = (s.withWatcher (.watching .pausing)).dropUnheard := by
        simp [step, hw, hc, Watcher.start, Watcher.step, WatchStage.next]
      rw [hstep, dropUnheard, if_pos hnext]
      exact ⟨hnext, hk⟩
  | deliver =>
    have hmove : (s.move history .launch).listens := listens_move hl _
    simp only [step]
    split
    · exact ⟨hl, hk⟩
    · next v vs hpending =>
      refine ⟨hmove, ?_⟩
      rcases hk with hp | hd | hv
      · rcases List.mem_cons.1 (hpending ▸ hp) with hv | hp
        · exact .inr (.inl (by simp [move, Traffic.step, hv]))
        · exact .inl hp
      · exact .inr (.inl (List.mem_append_left _ hd))
      · exact .inr (.inr hv)
  | launch => exact ⟨listens_move hl _, knows_move hk (by simp)⟩
  | lose => cases he

theorem known_run (hl : s.listens) (hk : s.Knows) {es : List Event} (hes : ∀ e ∈ es, e.IsCalm) :
    (s.run history es).listens ∧ (s.run history es).Knows := by
  induction es generalizing s with
  | nil => exact ⟨hl, hk⟩
  | cons e es ih =>
    obtain ⟨hl', hk'⟩ := known_step hl hk (hes e List.mem_cons_self)
    exact ih hl' hk' fun e he => hes e (List.mem_cons_of_mem _ he)

/-- Nothing is missed from a moment on in which the listener is registered and the present version is known,
as long as its connection holds. -/
theorem watched_changes_are_served (history : CatalogHistory) (r : Router) {es es' : List Event}
    (h : IsSerial history (initial r) (es ++ es')) (hl : ((initial r).run history es).listens)
    (hk : ((initial r).run history es).Knows) (hcalm : ∀ e ∈ es', e.IsCalm) :
    let s := (initial r).run history (es ++ es')
    s.pending = [] → (∀ f ∈ s.traffic.flights, f.IsLanded) →
      s.traffic.router.Serves (history s.traffic.version) := by
  intro s hpending hlanded
  have hs : Sound history s := (sound_initial r).run h
  have hknown : s.Knows := by
    rw [show s = _ from run_append es es']
    exact (known_run hl hk hcalm).2
  exact hs.serves_present hpending hlanded hknown

/-! ## Changes that are missed -/

/-- The steps of a watcher whose connection is lost, up to its wait for the next watch. -/
def Event.loss (f : Fault) : List Event := [.lose, .wake none, .wake (some f), .wake none, .wake none]

/-- A change after the first start and before the watcher is registered. -/
def Event.beforeRegistration : List Event := starting 0 ++ .change :: .watch :: registration

/-- A change while the watcher waits to start the next watch. -/
def Event.betweenWatches : List Event :=
  starting 0 ++ .watch :: (registration ++ loss (.raised .connection "connection lost") ++
    .change :: .wake none :: registration)

/-- A change whose notification is lost with the connection. -/
def Event.beforeDelivery : List Event :=
  starting 0 ++ .watch :: (registration ++ .change :: loss (.raised .connection "connection lost") ++
    .wake none :: registration)

/-- The listener is registered, no notification is under way and all starts have ended well, but the schema
is not that of the present catalog. -/
def Misses (history : CatalogHistory) (s : Service) : Prop :=
  s.listens ∧ s.pending = [] ∧ (∀ f ∈ s.traffic.flights, f.IsLanded) ∧
    ¬ s.traffic.router.Serves (history s.traffic.version)

/-- A change is missed when it commits before the first listener is registered, when it commits between a
lost watch and the next, and when the connection is lost before it is notified. -/
theorem undelivered_changes_are_missed :
    Misses .sample ((initial (.new none .default true)).run .sample Event.beforeRegistration) ∧
      Misses .sample ((initial (.new none .default true)).run .sample Event.betweenWatches) ∧
      Misses .sample ((initial (.new none .default true)).run .sample Event.beforeDelivery) := by
  let s : Service :=
    ⟨⟨watchingSample, 1, [⟨.finished (.ok .earlierSample), some 0⟩], [0], [0]⟩, true, [], []⟩
  have hstart : (initial (.new none .default true)).run .sample (Event.starting 0) = _ :=
    run_first_start _ Snapshot.ofAnswer_earlierSample
  have hregistration : (initial (.new none .default true)).run .sample Event.beforeRegistration = s := by
    rw [Event.beforeRegistration, run_append, hstart]
    rfl
  have hbetween : (initial (.new none .default true)).run .sample Event.betweenWatches = s := by
    rw [Event.betweenWatches, run_append, hstart]
    rfl
  have hdelivery : (initial (.new none .default true)).run .sample Event.beforeDelivery = s := by
    rw [Event.beforeDelivery, run_append, hstart]
    rfl
  have hmisses : Misses .sample s := by
    refine ⟨rfl, rfl, fun f hf => ?_, Router.not_serves_sample rfl rfl⟩
    rw [List.mem_singleton.1 hf]
    exact ⟨_, rfl⟩
  rw [hregistration, hbetween, hdelivery]
  exact ⟨hmisses, hmisses, hmisses⟩

end Service

end CatalogSchema
