import CatalogSchema.Proofs.Service.Start
import Mathlib.Data.List.Basic

/-!
# Starts in flight

Any number of starts of one router may be in flight while the catalog changes, and their steps come in any
order. `Traffic` is the router with its starts, and `Traffic.step` one step of one of them or one change of
the catalog; `Traffic.Move` lists what a step can do. In every run, what is served is the schema of the
snapshot of the start that ended last (`Traffic.Sound.serves`).
-/

namespace CatalogSchema

/-! ## Runs -/

section AlongRun

variable {State Event : Type} {step : State → Event → State} {allowed : State → Event → Prop}
  {s : State} {es es' : List Event}

/-- Every event is allowed in the state that it meets. -/
def AlongRun (step : State → Event → State) (allowed : State → Event → Prop) : State → List Event → Prop
  | _, [] => True
  | s, e :: es => allowed s e ∧ AlongRun step allowed (step s e) es

theorem AlongRun.append (h : AlongRun step allowed s es) (h' : AlongRun step allowed (es.foldl step s) es') :
    AlongRun step allowed s (es ++ es') := by
  induction es generalizing s with
  | nil => exact h'
  | cons e es ih => exact ⟨h.1, ih h.2 h'⟩

/-- What every allowed event preserves is preserved by the run. -/
theorem AlongRun.invariant {p : State → Prop} (hstep : ∀ s e, p s → allowed s e → p (step s e))
    (h : AlongRun step allowed s es) (hs : p s) : p (es.foldl step s) := by
  induction es generalizing s with
  | nil => exact hs
  | cons e es ih => exact ih h.2 (hstep s e hs h.1)

end AlongRun

/-! ## Starts in flight -/

/-- What the introspection query returns on each version of the catalog; a change makes the next version. -/
abbrev CatalogHistory := Nat → Option String

/-- The router serves the schema of the snapshot in an answer. -/
def Router.Serves (r : Router) (answer : Option String) : Prop :=
  ∃ s, Snapshot.ofAnswer answer = .ok s ∧ r.metadata = some (buildSchema s r.options)

/-- A start of the router. -/
structure Flight where
  stage : StartStage
  /-- The version of the catalog that its transaction sees. -/
  view : Option Nat

namespace Flight

variable {history : CatalogHistory} {f : Flight} {outcome : Option Fault}

def launched : Flight := ⟨.acquiring, none⟩

/-- Its snapshot was read and adopted. -/
def IsLanded (f : Flight) : Prop := ∃ s, f.stage = .finished (.ok s)

/-- It holds a view of the catalog and goes on. -/
def IsLooking (f : Flight) : Prop := f.view.isSome ∧ f.stage.call?.isSome

/-- Whether the call it waits for can end like this: the query returns only with a view. -/
def canProceed (f : Flight) (outcome : Option Fault) : Bool :=
  match f.stage with
  | .finished _ => false
  | .fetching => f.view.isSome || outcome.isSome
  | _ => true

def next (history : CatalogHistory) (f : Flight) (outcome : Option Fault) : Flight :=
  { f with stage := f.stage.next (f.view.bind history) outcome }

/-- What was read agrees with the view. -/
def Consistent (history : CatalogHistory) (f : Flight) : Prop :=
  match f.stage with
  | .acquiring | .beginning => f.view = none
  | .committing answer => ∃ v, f.view = some v ∧ answer = history v
  | .releasing s | .finished (.ok s) => ∃ v, f.view = some v ∧ Snapshot.ofAnswer (history v) = .ok s
  | .fetching | .rollingBack _ | .discarding _ | .finished (.error _) => True

theorem isLooking_of_next (h : (f.next history outcome).IsLooking) : f.IsLooking := by
  refine ⟨h.1, ?_⟩
  obtain ⟨stage, view⟩ := f
  cases stage with
  | finished result => exact h.2
  | _ => rfl

theorem isLooking_of_canProceed (hf : f.canProceed outcome) (hv : f.view.isSome) : f.IsLooking := by
  refine ⟨hv, ?_⟩
  obtain ⟨stage, view⟩ := f
  cases stage with
  | finished result => cases hf
  | _ => rfl

theorem Consistent.next (h : f.Consistent history) (hf : f.canProceed outcome) :
    (f.next history outcome).Consistent history := by
  obtain ⟨stage, view⟩ := f
  match stage, outcome with
  | .acquiring, none => exact h
  | .fetching, none =>
    obtain ⟨v, rfl⟩ : ∃ v, view = some v := Option.isSome_iff_exists.1 (by simpa [canProceed] using hf)
    exact ⟨v, rfl, rfl⟩
  | .committing answer, none =>
    obtain ⟨v, rfl, rfl⟩ := h
    cases hs : Snapshot.ofAnswer (history v) with
    | ok s =>
      have hstage : (⟨.committing (history v), some v⟩ : Flight).next history none = ⟨.releasing s, some v⟩ := by
        simp [Flight.next, StartStage.next, hs]
      rw [hstage]
      exact ⟨v, rfl, hs⟩
    | error e => simp [Flight.next, StartStage.next, hs, Consistent]
  | .releasing s, none => exact h
  | .acquiring, some e | .beginning, none | .beginning, some e | .fetching, some e
  | .committing answer, some e | .rollingBack cause, o | .releasing s, some e | .discarding cause, o =>
    trivial
  | .finished result, o => cases hf

theorem Consistent.exists_view (h : f.Consistent history) (hl : f.IsLanded) : ∃ v, f.view = some v := by
  obtain ⟨s, hs⟩ := hl
  rw [Consistent, hs] at h
  obtain ⟨v, hv, -⟩ := h
  exact ⟨v, hv⟩

end Flight

/-! ## Steps -/

/-- A router with its starts, in the order in which they were launched, while the catalog changes. -/
structure Traffic where
  router : Router
  /-- The present version of the catalog. -/
  version : Nat
  flights : List Flight
  /-- The versions that were looked at, in that order. -/
  views : List Nat
  /-- The versions whose schema was adopted, in that order. -/
  served : List Nat

namespace Traffic

inductive Event where
  | change
  | launch
  /-- The transaction of a start gets its view of the catalog. -/
  | look (i : Nat)
  /-- The call that a start waits for ends. -/
  | proceed (i : Nat) (outcome : Option Fault)

def initial (r : Router) : Traffic := ⟨r, 0, [], [], []⟩

/-- Put a start back after a step; the router adopts what a start ends with. -/
def land (t : Traffic) (i : Nat) (f : Flight) : Traffic :=
  match f.stage, f.view with
  | .finished (.ok s), some v =>
    { t with
      flights := t.flights.set i f
      router := t.router.adopt (buildSchema s t.router.options)
      served := t.served ++ [v] }
  | _, _ => { t with flights := t.flights.set i f }

/-- One step; an event that cannot happen changes nothing. -/
def step (history : CatalogHistory) (t : Traffic) : Event → Traffic
  | .change => { t with version := t.version + 1 }
  | .launch => { t with flights := t.flights ++ [.launched] }
  | .look i =>
    match t.flights[i]? with
    | some ⟨.fetching, none⟩ =>
      { t with flights := t.flights.set i ⟨.fetching, some t.version⟩, views := t.views ++ [t.version] }
    | _ => t
  | .proceed i outcome =>
    match t.flights[i]? with
    | some f => if f.canProceed outcome then t.land i (f.next history outcome) else t
    | none => t

def run (history : CatalogHistory) (t : Traffic) (es : List Event) : Traffic := es.foldl (step history) t

theorem run_cons (history : CatalogHistory) (t : Traffic) (e : Event) (es : List Event) :
    t.run history (e :: es) = (t.step history e).run history es := rfl

theorem run_append (history : CatalogHistory) (t : Traffic) (es es' : List Event) :
    t.run history (es ++ es') = (t.run history es).run history es' := List.foldl_append ..

/-- What a step can do. -/
inductive Move (history : CatalogHistory) (t : Traffic) : Event → Traffic → Prop where
  | idle {e : Event} : Move history t e t
  | change : Move history t .change { t with version := t.version + 1 }
  | launch : Move history t .launch { t with flights := t.flights ++ [.launched] }
  | look {i : Nat} (h : t.flights[i]? = some ⟨.fetching, none⟩) :
      Move history t (.look i)
        { t with flights := t.flights.set i ⟨.fetching, some t.version⟩, views := t.views ++ [t.version] }
  | proceed {i : Nat} {outcome : Option Fault} {f : Flight} (h : t.flights[i]? = some f)
      (hf : f.canProceed outcome) (hg : ¬ (f.next history outcome).IsLanded) :
      Move history t (.proceed i outcome) { t with flights := t.flights.set i (f.next history outcome) }
  | land {i : Nat} {outcome : Option Fault} {f : Flight} {s : Snapshot} {v : Nat}
      (h : t.flights[i]? = some f) (hf : f.canProceed outcome)
      (hg : (f.next history outcome).stage = .finished (.ok s)) (hv : f.view = some v)
      (hs : Snapshot.ofAnswer (history v) = .ok s) :
      Move history t (.proceed i outcome)
        { t with
          flights := t.flights.set i (f.next history outcome)
          router := t.router.adopt (buildSchema s t.router.options)
          served := t.served ++ [v] }

variable {history : CatalogHistory} {t : Traffic}

theorem move_step (h : ∀ f ∈ t.flights, f.Consistent history) (e : Event) :
    Move history t e (t.step history e) := by
  cases e with
  | change => exact .change
  | launch => exact .launch
  | look i =>
    simp only [step]
    split
    · next hi => exact .look hi
    · exact .idle
  | proceed i outcome =>
    simp only [step]
    split
    · next f hi =>
      by_cases hf : f.canProceed outcome
      · rw [if_pos hf]
        have hg := (h f (List.mem_of_getElem? hi)).next hf
        by_cases hl : (f.next history outcome).IsLanded
        · obtain ⟨s, hs⟩ := hl
          rw [Flight.Consistent, hs] at hg
          obtain ⟨v, hv, hread⟩ := hg
          have hland := Move.land hi hf hs hv hread
          rwa [land, hs, hv]
        · have hproceed := Move.proceed hi hf hl
          rw [land]
          split
          · next s v hs hv => exact absurd ⟨s, hs⟩ hl
          · exact hproceed
      · rw [if_neg hf]
        exact .idle
    · exact .idle

/-! ## What is served -/

/-- What holds in every run. -/
structure Sound (history : CatalogHistory) (t : Traffic) : Prop where
  consistent : ∀ f ∈ t.flights, f.Consistent history
  view_mem : ∀ f ∈ t.flights, ∀ v ∈ f.view, v ∈ t.views
  views_le : ∀ v ∈ t.views, v ≤ t.version
  views_ascend : t.views.Pairwise (· ≤ ·)
  served_mem : ∀ v ∈ t.served, v ∈ t.views
  serves : ∀ v ∈ t.served.getLast?, t.router.Serves (history v)

theorem sound_initial (r : Router) : Sound history (initial r) :=
  ⟨by simp [initial], by simp [initial], by simp [initial], .nil, by simp [initial], by simp [initial]⟩

theorem forall_mem_set {α : Type} {p : α → Prop} {l : List α} {a : α} (h : ∀ b ∈ l, p b) (ha : p a)
    (i : Nat) : ∀ b ∈ l.set i a, p b := fun b hb => by
  rcases List.mem_or_eq_of_mem_set hb with hb | rfl
  · exact h b hb
  · exact ha

theorem mem_set_or_eq {α : Type} {l : List α} {a b : α} {i : Nat} (ha : a ∈ l) (hb : l[i]? = some b)
    (c : α) : a ∈ l.set i c ∨ a = b := by
  obtain ⟨k, hk⟩ := List.getElem?_of_mem ha
  by_cases hik : i = k
  · subst hik
    exact .inr (Option.some.inj (hk.symm.trans hb))
  · exact .inl (List.mem_of_getElem? ((List.getElem?_set_ne hik).trans hk))

/-- The last of ascending numbers is the greatest. -/
theorem le_getLast {l : List Nat} (h : l.Pairwise (· ≤ ·)) {v w : Nat} (hv : l.getLast? = some v)
    (hw : w ∈ l) : w ≤ v := by
  obtain ⟨l', rfl⟩ := List.getLast?_eq_some_iff.1 hv
  rcases List.mem_append.1 hw with hw | hw
  · exact (List.pairwise_append.1 h).2.2 w hw v (by simp)
  · exact Nat.le_of_eq (List.mem_singleton.1 hw)

theorem Sound.move {u : Traffic} {e : Event} (h : Sound history t) (m : Move history t e u) :
    Sound history u := by
  cases m with
  | idle => exact h
  | change => exact { h with views_le := fun v hv => Nat.le_succ_of_le (h.views_le v hv) }
  | launch =>
    have hnew (f : Flight) (hf : f ∈ t.flights ++ [.launched]) : f ∈ t.flights ∨ f = .launched := by
      simpa using hf
    refine { h with consistent := fun f hf => ?_, view_mem := fun f hf => ?_ }
    · rcases hnew f hf with hf | rfl
      · exact h.consistent f hf
      · exact rfl
    · rcases hnew f hf with hf | rfl
      · exact h.view_mem f hf
      · exact fun v hv => by cases hv
  | look hi =>
    have hnew : (⟨.fetching, some t.version⟩ : Flight).Consistent history := trivial
    refine { h with
      consistent := forall_mem_set h.consistent hnew _
      view_mem := forall_mem_set (fun f hf v hv => ?_) (fun v hv => ?_) _
      views_le := fun v hv => ?_
      views_ascend := ?_
      served_mem := fun v hv => ?_ }
    · exact List.mem_append_left _ (h.view_mem f hf v hv)
    · obtain rfl : t.version = v := Option.some.inj hv
      simp
    · rcases List.mem_append.1 hv with hv | hv
      · exact h.views_le v hv
      · exact Nat.le_of_eq (List.mem_singleton.1 hv)
    · refine List.pairwise_append.2 ⟨h.views_ascend, by simp, fun a ha b hb => ?_⟩
      rw [List.mem_singleton.1 hb]
      exact h.views_le a ha
    · exact List.mem_append_left _ (h.served_mem v hv)
  | @proceed i outcome f hi hf hg =>
    have hm := List.mem_of_getElem? hi
    have hviews : ∀ v ∈ (f.next history outcome).view, v ∈ t.views := h.view_mem f hm
    exact { h with
      consistent := forall_mem_set h.consistent ((h.consistent f hm).next hf) _
      view_mem := forall_mem_set h.view_mem hviews _ }
  | @land i outcome f s v hi hf hg hv hs =>
    have hm := List.mem_of_getElem? hi
    have hviews : ∀ v ∈ (f.next history outcome).view, v ∈ t.views := h.view_mem f hm
    refine
      { consistent := forall_mem_set h.consistent ((h.consistent f hm).next hf) _
        view_mem := forall_mem_set h.view_mem hviews _
        views_le := h.views_le
        views_ascend := h.views_ascend
        served_mem := fun w hw => ?_
        serves := fun w hw => ?_ }
    · rcases List.mem_append.1 hw with hw | hw
      · exact h.served_mem w hw
      · rw [List.mem_singleton.1 hw]
        exact h.view_mem f hm v hv
    · obtain rfl : v = w := by simpa using hw
      exact ⟨s, hs, rfl⟩

theorem Sound.step (h : Sound history t) (e : Event) : Sound history (t.step history e) :=
  h.move (move_step h.consistent e)

theorem Sound.run (h : Sound history t) (es : List Event) : Sound history (t.run history es) := by
  induction es generalizing t with
  | nil => exact h
  | cons e es ih => exact ih (h.step e)

end Traffic

end CatalogSchema
