import CatalogSchema.Proofs.Catalog.Answer
import CatalogSchema.Proofs.Service.Traffic

/-!
# Starts that overlap, and starts one after the other

Starts that overlap can end in another order than they looked at the catalog, and then an older version
takes the place of a newer one (`overlapping_starts_go_back`). When a start looks only while no other one holds
a view, what is served never goes back and is the newest in the end (`serial_starts_ascend`).
-/

namespace CatalogSchema

/-! ## A catalog that changes -/

/-- The small catalog, to which the first change adds a column. -/
def CatalogHistory.sample : CatalogHistory := fun v =>
  some ((if v = 0 then Snapshot.earlierSample else Snapshot.sample).encode.render .compact)

theorem Router.not_serves_sample {r : Router} (ho : r.options = .default)
    (h : r.metadata = some (buildSchema .earlierSample .default)) :
    ¬ r.Serves (CatalogHistory.sample 1) := by
  rintro ⟨s, hs, hserved⟩
  obtain rfl : s = .sample := Except.ok.inj (hs.symm.trans Snapshot.ofAnswer_sample)
  rw [h, ho] at hserved
  exact Snapshot.buildSchema_earlierSample_ne (Option.some.inj hserved)

namespace Traffic

variable {history : CatalogHistory} {t : Traffic}

/-! ## Starts one after the other -/

/-- A start looks at the catalog only when no other one holds a view. -/
def Event.IsSerial (t : Traffic) (e : Event) : Prop := ∀ i, e = .look i → ∀ f ∈ t.flights, ¬ f.IsLooking

/-- In no step of the run a start looks at the catalog while another one holds a view. -/
def IsSerial (history : CatalogHistory) : Traffic → List Event → Prop := AlongRun (step history) Event.IsSerial

/-- What holds as well when the starts look one after the other. -/
structure Ordered (t : Traffic) : Prop where
  /-- A view that is still held is the newest. -/
  newest : ∀ f ∈ t.flights, f.IsLooking → f.view = t.views.getLast?
  ascend : t.served.Pairwise (· ≤ ·)
  /-- The newest view was adopted unless its start is under way or failed. -/
  arrived : (∃ f ∈ t.flights, f.view.isSome ∧ ¬ f.IsLanded) ∨ t.served.getLast? = t.views.getLast?

theorem ordered_initial (r : Router) : Ordered (initial r) :=
  ⟨by simp [initial], .nil, .inr rfl⟩

theorem Ordered.move {u : Traffic} {e : Event} (h : Ordered t) (hsound : Sound history t)
    (he : e.IsSerial t) (m : Move history t e u) : Ordered u := by
  cases m with
  | idle => exact h
  | change => exact ⟨h.newest, h.ascend, h.arrived⟩
  | launch =>
    refine ⟨fun f hf hl => ?_, h.ascend, ?_⟩
    · rcases List.mem_append.1 hf with hf | hf
      · exact h.newest f hf hl
      · rw [List.mem_singleton.1 hf] at hl
        cases hl.1
    · refine h.arrived.imp_left ?_
      rintro ⟨f, hf, hv⟩
      exact ⟨f, List.mem_append_left _ hf, hv⟩
  | @look i hi =>
    have hlast : (t.views ++ [t.version]).getLast? = some t.version := by simp
    refine ⟨fun f hf hl => ?_, h.ascend, .inl ⟨⟨.fetching, some t.version⟩, ?_, rfl, fun hl => ?_⟩⟩
    · rcases List.mem_or_eq_of_mem_set hf with hf | rfl
      · exact absurd hl (he i rfl f hf)
      · exact hlast.symm
    · exact List.mem_set (List.getElem?_eq_some_iff.1 hi).1 _
    · obtain ⟨s, hs⟩ := hl
      cases hs
  | @proceed i outcome f hi hf hg =>
    have hnext : (f.next history outcome).IsLooking → (f.next history outcome).view = t.views.getLast? :=
      fun hl => h.newest f (List.mem_of_getElem? hi) (Flight.isLooking_of_next hl)
    refine ⟨forall_mem_set h.newest hnext _, h.ascend, h.arrived.imp_left ?_⟩
    rintro ⟨f', hf', hv, hl⟩
    rcases mem_set_or_eq hf' hi (f.next history outcome) with hf' | rfl
    · exact ⟨f', hf', hv, hl⟩
    · exact ⟨f'.next history outcome, List.mem_set (List.getElem?_eq_some_iff.1 hi).1 _, hv, hg⟩
  | @land i outcome f s v hi hf hg hv hs =>
    have hm := List.mem_of_getElem? hi
    have hnewest : t.views.getLast? = some v :=
      (h.newest f hm (Flight.isLooking_of_canProceed hf (by simp [hv]))).symm.trans hv
    have hnext : (f.next history outcome).IsLooking → (f.next history outcome).view = t.views.getLast? :=
      fun hl => h.newest f hm (Flight.isLooking_of_next hl)
    refine ⟨forall_mem_set h.newest hnext _, ?_, .inr ?_⟩
    · refine List.pairwise_append.2 ⟨h.ascend, by simp, fun a ha b hb => ?_⟩
      rw [List.mem_singleton.1 hb]
      exact le_getLast hsound.views_ascend hnewest (hsound.served_mem a ha)
    · simp [hnewest]

theorem Ordered.run (h : Ordered t) (hsound : Sound history t) {es : List Event}
    (hes : IsSerial history t es) : Ordered (t.run history es) := by
  have hstep (t : Traffic) (e : Event) (hi : Sound history t ∧ Ordered t) (he : e.IsSerial t) :
      Sound history (t.step history e) ∧ Ordered (t.step history e) :=
    ⟨hi.1.step e, hi.2.move hi.1 he (move_step hi.1.consistent e)⟩
  exact (hes.invariant hstep ⟨hsound, h⟩).2

/-- Once all starts have ended well the newest view is served. -/
theorem Ordered.serves_newest (h : Ordered t) (hsound : Sound history t)
    (hlanded : ∀ f ∈ t.flights, f.IsLanded) {v : Nat} (hv : t.views.getLast? = some v) :
    t.router.Serves (history v) := by
  rcases h.arrived with ⟨f, hf, -, hnot⟩ | hlast
  · exact absurd (hlanded f hf) hnot
  · exact hsound.serves v (hlast.trans hv)

/-! ## Runs of one start -/

/-- A start put back as it is now. -/
def put (t : Traffic) (i : Nat) (f : Flight) : Traffic := { t with flights := t.flights.set i f }

theorem step_put {i : Nat} (hi : i < t.flights.length) {f : Flight} {outcome : Option Fault}
    (hf : f.canProceed outcome) :
    (t.put i f).step history (.proceed i outcome) = t.land i (f.next history outcome) := by
  have hget : (t.put i f).flights[i]? = some f := List.getElem?_set_self hi
  have hset (g : Flight) : (t.put i f).flights.set i g = t.flights.set i g := List.set_set ..
  simp only [step, hget, hf, ↓reduceIte]
  unfold land
  simp only [hset]
  rfl

/-- The steps of a start up to the release of its connection, when nothing goes wrong. -/
def Event.reading (i : Nat) : List Event :=
  [.proceed i none, .proceed i none] ++ [.look i, .proceed i none, .proceed i none]

theorem run_proceed_proceed {i : Nat} (hi : t.flights[i]? = some .launched) :
    t.run history [.proceed i none, .proceed i none] = t.put i ⟨.fetching, none⟩ := by
  obtain ⟨hlt, hself⟩ := List.getElem?_eq_some_iff.1 hi
  have hput : t.put i .launched = t := by rw [put, ← hself, List.set_getElem_self]
  have hacquired : (t.put i .launched).step history (.proceed i none) = t.put i ⟨.beginning, none⟩ :=
    step_put hlt rfl
  have hbegun : (t.put i ⟨.beginning, none⟩).step history (.proceed i none) = t.put i ⟨.fetching, none⟩ :=
    step_put hlt rfl
  rw [run_cons, run_cons, ← hbegun, ← hacquired, hput]
  rfl

/-- A start that is left alone reads the present catalog. -/
theorem run_reading {i : Nat} {s : Snapshot} (hi : t.flights[i]? = some .launched)
    (hs : Snapshot.ofAnswer (history t.version) = .ok s) :
    t.run history (Event.reading i) =
      put { t with views := t.views ++ [t.version] } i ⟨.releasing s, some t.version⟩ := by
  let u : Traffic := { t with views := t.views ++ [t.version] }
  have hlt : i < u.flights.length := (List.getElem?_eq_some_iff.1 hi).1
  have hlook : (t.put i ⟨.fetching, none⟩).step history (.look i) = u.put i ⟨.fetching, some t.version⟩ := by
    have hget : (t.put i ⟨.fetching, none⟩).flights[i]? = some ⟨.fetching, none⟩ := List.getElem?_set_self hlt
    simp only [step, hget]
    simp only [put, List.set_set, u]
  have hfetched : (u.put i ⟨.fetching, some t.version⟩).step history (.proceed i none) =
      u.put i ⟨.committing (history t.version), some t.version⟩ := step_put hlt rfl
  have hcommitted : (u.put i ⟨.committing (history t.version), some t.version⟩).step history
      (.proceed i none) = u.put i ⟨.releasing s, some t.version⟩ := by
    rw [step_put hlt rfl, Flight.next]
    simp only [StartStage.next, hs]
    rfl
  rw [Event.reading, run_append, run_proceed_proceed hi, run_cons, hlook, run_cons, hfetched, run_cons,
    hcommitted]
  rfl

/-- A start from its launch to its end, when nothing goes wrong; `i` starts were launched before. -/
def Event.whole (i : Nat) : List Event := .launch :: (reading i ++ [.proceed i none])

/-- A start that is left alone adopts the present catalog. -/
theorem run_whole {s : Snapshot} (hs : Snapshot.ofAnswer (history t.version) = .ok s) :
    t.run history (Event.whole t.flights.length) =
      { router := t.router.adopt (buildSchema s t.router.options)
        version := t.version
        flights := t.flights ++ [⟨.finished (.ok s), some t.version⟩]
        views := t.views ++ [t.version]
        served := t.served ++ [t.version] } := by
  let u : Traffic := { t with flights := t.flights ++ [.launched] }
  let v : Traffic := { u with views := t.views ++ [t.version] }
  have hu : u.flights[t.flights.length]? = some .launched := by simp [u]
  have hlt : t.flights.length < v.flights.length := by simp [u, v]
  have hread : u.run history (Event.reading t.flights.length) =
      v.put t.flights.length ⟨.releasing s, some t.version⟩ := run_reading hu hs
  have hreleased : (v.put t.flights.length ⟨.releasing s, some t.version⟩).step history
      (.proceed t.flights.length none) = v.land t.flights.length ⟨.finished (.ok s), some t.version⟩ :=
    step_put hlt rfl
  have hset : u.flights.set t.flights.length ⟨.finished (.ok s), some t.version⟩ =
      t.flights ++ [⟨.finished (.ok s), some t.version⟩] := by simp [u]
  have hlaunch : t.step history .launch = u := rfl
  rw [Event.whole, run_cons, hlaunch, run_append, hread, run_cons, hreleased, ← hset]
  rfl

theorem Event.isSerial_of_ne {e : Event} (h : ∀ i, e ≠ .look i) (t : Traffic) : e.IsSerial t :=
  fun i hi => absurd hi (h i)

/-- A start that nothing else happens beside is serial when no other one holds a view. -/
theorem isSerial_whole (hnone : ∀ f ∈ t.flights, ¬ f.IsLooking) :
    IsSerial history t (Event.whole t.flights.length) := by
  let u : Traffic := { t with flights := t.flights ++ [.launched] }
  have hu : u.flights[t.flights.length]? = some .launched := by simp [u]
  have hproceed (w : Traffic) : (Event.proceed t.flights.length none).IsSerial w :=
    Event.isSerial_of_ne (by simp) w
  have hfirst : IsSerial history u [.proceed t.flights.length none, .proceed t.flights.length none] :=
    ⟨hproceed _, hproceed _, trivial⟩
  have hlook : (Event.look t.flights.length).IsSerial
      (u.run history [.proceed t.flights.length none, .proceed t.flights.length none]) := by
    intro _ _
    rw [run_proceed_proceed hu]
    refine forall_mem_set (fun f hf => ?_) (fun h => by cases h.1) _
    rcases List.mem_append.1 hf with hf | hf
    · exact hnone f hf
    · rw [List.mem_singleton.1 hf]
      exact fun h => by cases h.1
  have hrest : IsSerial history
      (u.run history [.proceed t.flights.length none, .proceed t.flights.length none])
      [.look t.flights.length, .proceed t.flights.length none, .proceed t.flights.length none,
        .proceed t.flights.length none] := ⟨hlook, hproceed _, hproceed _, hproceed _, trivial⟩
  have hall : IsSerial history u (Event.reading t.flights.length ++ [.proceed t.flights.length none]) := by
    rw [Event.reading, List.append_assoc]
    exact hfirst.append hrest
  exact ⟨Event.isSerial_of_ne (by simp) t, hall⟩

/-! ## The order of the versions that are served -/

/-- When the starts look one after the other, what is served never goes back to an older version of the
catalog, and once all have ended well it is the newest that was looked at. -/
theorem serial_starts_ascend (history : CatalogHistory) (r : Router) (es : List Event)
    (h : IsSerial history (initial r) es) :
    let t := (initial r).run history es
    t.served.Pairwise (· ≤ ·) ∧
      ((∀ f ∈ t.flights, f.IsLanded) → ∀ v ∈ t.views.getLast?,
        (∀ w ∈ t.views, w ≤ v) ∧ t.router.Serves (history v)) := by
  intro t
  have hsound : Sound history t := (sound_initial r).run es
  have hordered : Ordered t := (ordered_initial r).run (sound_initial r) h
  exact ⟨hordered.ascend, fun hlanded v hv =>
    ⟨fun w hw => le_getLast hsound.views_ascend hv hw, hordered.serves_newest hsound hlanded hv⟩⟩

/-- A start before a change and one after it. -/
def Event.oneByOne : List Event := whole 0 ++ .change :: whole 1

theorem serial_sample_ascends :
    IsSerial .sample (initial (.new none .default true)) Event.oneByOne ∧
      let t := (initial (.new none .default true)).run .sample Event.oneByOne
      (∀ f ∈ t.flights, f.IsLanded) ∧ 1 ∈ t.views.getLast? ∧ t.served.Pairwise (· ≤ ·) ∧
        t.router.Serves (CatalogHistory.sample 1) := by
  let r := (Router.new none .default true).adopt (buildSchema .earlierSample .default)
  let t₀ : Traffic := ⟨r, 0, [⟨.finished (.ok .earlierSample), some 0⟩], [0], [0]⟩
  let t₁ : Traffic := { t₀ with version := 1 }
  have hstart : (initial (.new none .default true)).run .sample (Event.whole 0) = t₀ :=
    run_whole Snapshot.ofAnswer_earlierSample
  have hchange : t₀.step .sample .change = t₁ := rfl
  have hrestart : t₁.run .sample (Event.whole 1) = _ := run_whole Snapshot.ofAnswer_sample
  have hrun : (initial (.new none .default true)).run .sample Event.oneByOne =
      t₁.run .sample (Event.whole 1) := by
    rw [Event.oneByOne, run_append, hstart, run_cons, hchange]
  have hfirst : IsSerial .sample (initial (.new none .default true)) (Event.whole 0) :=
    isSerial_whole (by simp [initial])
  have hsecond : IsSerial .sample t₁ (Event.whole 1) :=
    isSerial_whole (by simp [t₁, t₀, Flight.IsLooking, StartStage.call?])
  have hserial : IsSerial .sample (initial (.new none .default true)) Event.oneByOne := by
    refine hfirst.append ?_
    rw [← run, hstart]
    exact ⟨Event.isSerial_of_ne (by simp) t₀, hsecond⟩
  have hlanded : ∀ f ∈ (t₁.run .sample (Event.whole 1)).flights, f.IsLanded := by
    rw [hrestart]
    simp [t₁, t₀, Flight.IsLanded]
  have hviews : 1 ∈ (t₁.run .sample (Event.whole 1)).views.getLast? := by
    rw [hrestart]
    rfl
  have hascend := serial_starts_ascend .sample (.new none .default true) Event.oneByOne hserial
  rw [hrun] at hascend ⊢
  exact ⟨hserial, hlanded, hviews, hascend.1, (hascend.2 hlanded 1 hviews).2⟩

/-- The second of two starts looks after a change and overtakes the first. -/
def Event.overtaking : List Event :=
  .launch :: (reading 0 ++ .change :: .launch :: (reading 1 ++ [.proceed 1 none, .proceed 0 none]))

theorem run_overtaking (r : Router) {s s' : Snapshot} (h : Snapshot.ofAnswer (history 0) = .ok s)
    (h' : Snapshot.ofAnswer (history 1) = .ok s') :
    (initial r).run history Event.overtaking =
      { router := (r.adopt (buildSchema s' r.options)).adopt (buildSchema s r.options)
        version := 1
        flights := [⟨.finished (.ok s), some 0⟩, ⟨.finished (.ok s'), some 1⟩]
        views := [0, 1]
        served := [1, 0] } := by
  have hread : run history ⟨r, 0, [.launched], [], []⟩ (Event.reading 0) =
      ⟨r, 0, [⟨.releasing s, some 0⟩], [0], []⟩ := run_reading rfl h
  have hread' : run history ⟨r, 1, [⟨.releasing s, some 0⟩, .launched], [0], []⟩ (Event.reading 1) =
      ⟨r, 1, [⟨.releasing s, some 0⟩, ⟨.releasing s', some 1⟩], [0, 1], []⟩ := run_reading rfl h'
  have hlaunch : (initial r).step history .launch = ⟨r, 0, [.launched], [], []⟩ := rfl
  have hlaunch' : (step history ⟨r, 0, [⟨.releasing s, some 0⟩], [0], []⟩ .change).step history .launch =
      ⟨r, 1, [⟨.releasing s, some 0⟩, .launched], [0], []⟩ := rfl
  rw [Event.overtaking, run_cons, hlaunch, run_append, hread, run_cons, run_cons, hlaunch', run_append,
    hread']
  rfl

/-- Two starts of which the second looks after the change: once both have ended well, the router serves the
schema from before the change that the second one saw. -/
theorem overlapping_starts_go_back :
    let t := (initial (.new none .default true)).run .sample Event.overtaking
    (∀ f ∈ t.flights, f.IsLanded) ∧ t.views = [0, 1] ∧ t.served = [1, 0] ∧
      t.router.Serves (CatalogHistory.sample 0) ∧ ¬ t.router.Serves (CatalogHistory.sample 1) := by
  intro t
  have ht : t = _ :=
    run_overtaking (.new none .default true) Snapshot.ofAnswer_earlierSample Snapshot.ofAnswer_sample
  rw [ht]
  refine ⟨fun f hf => ?_, rfl, rfl, ⟨_, Snapshot.ofAnswer_earlierSample, rfl⟩,
    Router.not_serves_sample rfl rfl⟩
  simp only [List.mem_cons, List.not_mem_nil, or_false] at hf
  rcases hf with rfl | rfl <;> exact ⟨_, rfl⟩

end Traffic

end CatalogSchema
