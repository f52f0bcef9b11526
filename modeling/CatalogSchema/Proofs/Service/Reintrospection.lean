import CatalogSchema.Proofs.Catalog.Answer
import CatalogSchema.Proofs.Service.Start

/-!
# Introspecting again

A router introspects when it is started and again for every announced change. A start takes one course
(`StartStage.Course`): it ends with the fault of its last call that failed, or as its answer says when none
failed, and a transaction that it entered it leaves once. `RouterSession` changes the router in place, so
that what a fault leaves behind can be asked: the router is changed by the last thing that a start does, so
whatever fails before leaves it as it was, and it serves the schema of the last start that completed
(`Attempt.last_completed_is_served`).
-/

namespace CatalogSchema

/-! ## Calls and how they ended -/

/-- Calls made one after the other, with how each of them ended. -/
abbrev Outcomes := List (Call × Option Fault)

/-- The calls made after the earlier ones, with how each of them ends on the backend. -/
def Backend.outcomes (b : Backend) (earlier : List Call) : List Call → Outcomes
  | [] => []
  | c :: made => (c, b.fault? earlier c) :: b.outcomes (earlier ++ [c]) made

namespace Outcomes

/-- The fault of the last call that failed. -/
def lastFault? (outcomes : Outcomes) : Option Fault := (outcomes.filterMap Prod.snd).getLast?

/-- How often a transaction was entered. -/
def entries (outcomes : Outcomes) : Nat := outcomes.count (.begin, none)

/-- How often a transaction was left. -/
def exits (outcomes : Outcomes) : Nat := outcomes.countP fun e => e.1 = .commit ∨ e.1 = .rollback

theorem lastFault?_cons (e : Call × Option Fault) (outcomes : Outcomes) :
    lastFault? (e :: outcomes) = outcomes.lastFault?.or e.2 := by
  obtain ⟨c, _ | f⟩ := e
  · simp [lastFault?]
  · simp only [lastFault?, List.filterMap_cons, List.getLast?_cons]
    cases (outcomes.filterMap Prod.snd).getLast? <;> rfl

theorem entries_cons (e : Call × Option Fault) (outcomes : Outcomes) :
    entries (e :: outcomes) = entries [e] + outcomes.entries :=
  (List.count_append : List.count _ ([e] ++ outcomes) = _)

theorem exits_cons (e : Call × Option Fault) (outcomes : Outcomes) :
    exits (e :: outcomes) = exits [e] + outcomes.exits :=
  (List.countP_append : List.countP _ ([e] ++ outcomes) = _)

end Outcomes

/-! ## The course of a reading -/

namespace StartStage

/-- The calls up to the end of a reading, each with how it ends, and how the reading ends. -/
inductive Course (answer : Option String) : StartStage → Outcomes → Except Fault Snapshot → Prop where
  | finished (result : Except Fault Snapshot) : Course answer (finished result) [] result
  | call {stage : StartStage} {c : Call} (h : stage.call? = some c) (outcome : Option Fault)
      {outcomes : Outcomes} {result : Except Fault Snapshot}
      (rest : Course answer (stage.next answer outcome) outcomes result) :
      Course answer stage ((c, outcome) :: outcomes) result

/-- What is left of a reading takes a course. -/
theorem exists_course (b : Backend) (j : Journal) (stage : StartStage) :
    ∃ result k made, stage.rest.runOn b j = (result, k) ∧ k.calls = j.calls ++ made ∧
      Course b.answer stage (b.outcomes j.calls made) result := by
  induction h : stage.rank using Nat.strongRecOn generalizing stage j with
  | ind rank ih =>
    subst h
    cases hc : stage.call? with
    | none =>
      cases stage with
      | finished result =>
        exact ⟨result, j, [], Session.runOn_conclude b j result, (List.append_nil _).symm, .finished result⟩
      | _ => cases hc
    | some c =>
      have hrank : 0 < stage.rank := by
        cases stage with
        | finished result => cases hc
        | _ => simp [rank]
      have hnext := rank_next_le b.answer stage (b.fault? j.calls c)
      obtain ⟨result, k, made, hrun, hcalls, hcourse⟩ := ih _ (by omega)
        ⟨j.calls ++ [c], j.records ++ stage.records (b.fault? j.calls c)⟩
        (stage.next b.answer (b.fault? j.calls c)) rfl
      exact ⟨result, k, c :: made, (runOn_rest b j hc).trans hrun, by simp [hcalls], .call hc _ hcourse⟩

/-- How the reading ends when no call fails from now on. -/
def verdict (answer : Option String) : StartStage → Except Fault Snapshot
  | acquiring | beginning | fetching => Snapshot.ofAnswer answer
  | committing answer => Snapshot.ofAnswer answer
  | rollingBack cause | discarding cause => .error cause
  | releasing s => .ok s
  | finished result => result

/-- Whether the transaction has yet to be entered. -/
def isBeforeTransaction : StartStage → Bool
  | acquiring | beginning => true
  | _ => false

/-- Whether the transaction is open. -/
def isInTransaction : StartStage → Bool
  | fetching | committing _ | rollingBack _ => true
  | _ => false

variable {answer : Option String} {stage : StartStage} {c : Call} {outcomes : Outcomes}
  {result : Except Fault Snapshot}

theorem verdict_next (h : stage.call? = some c) (outcome : Option Fault) :
    (stage.next answer outcome).verdict answer = outcome.elim (stage.verdict answer) .error := by
  cases stage with
  | committing a =>
    cases outcome with
    | none =>
      simp only [next, verdict, Option.elim_none]
      cases Snapshot.ofAnswer a <;> rfl
    | some f => rfl
  | finished result => cases h
  | _ => cases outcome <;> rfl

open Outcomes (entries exits)

/-- Only the call that enters the transaction leads into it, and only those that leave it lead out of it. -/
theorem transaction_next (answer : Option String) (h : stage.call? = some c) (outcome : Option Fault) :
    entries [(c, outcome)] + (stage.next answer outcome).isBeforeTransaction.toNat ≤
        stage.isBeforeTransaction.toNat ∧
      exits [(c, outcome)] + (stage.next answer outcome).isInTransaction.toNat =
        entries [(c, outcome)] + stage.isInTransaction.toNat := by
  cases stage with
  | committing a =>
    cases h
    cases outcome with
    | none =>
      simp only [next]
      cases Snapshot.ofAnswer a <;> simp [entries, exits, isBeforeTransaction, isInTransaction]
    | some f => simp [entries, exits, next, isBeforeTransaction, isInTransaction]
  | finished result => cases h
  | _ =>
    cases h
    cases outcome <;> simp [entries, exits, next, isBeforeTransaction, isInTransaction]

namespace Course

/-- A reading ends with the fault of its last call that failed, or as it would have without faults. -/
theorem result_eq (h : Course answer stage outcomes result) :
    result = outcomes.lastFault?.elim (stage.verdict answer) .error := by
  induction h with
  | finished result => rfl
  | @call stage c hc outcome outcomes result rest ih =>
    rw [ih, verdict_next hc, Outcomes.lastFault?_cons]
    cases outcomes.lastFault? <;> rfl

theorem entries_le (h : Course answer stage outcomes result) :
    entries outcomes ≤ stage.isBeforeTransaction.toNat := by
  induction h with
  | finished result => exact Nat.zero_le _
  | @call stage c hc outcome outcomes result rest ih =>
    have hstep := (transaction_next answer hc outcome).1
    rw [Outcomes.entries_cons]
    omega

theorem exits_eq (h : Course answer stage outcomes result) :
    exits outcomes = entries outcomes + stage.isInTransaction.toNat := by
  induction h with
  | finished result => rfl
  | @call stage c hc outcome outcomes result rest ih =>
    have hstep := (transaction_next answer hc outcome).2
    rw [Outcomes.exits_cons, Outcomes.entries_cons]
    omega

/-- The transaction is left by one of the calls that follow its entry. -/
theorem exits_after_entry (h : Course answer stage outcomes result) {before after : Outcomes}
    (hsplit : outcomes = before ++ (.begin, none) :: after) : exits after = 1 := by
  induction h generalizing before with
  | finished result => simp at hsplit
  | @call stage c hc outcome outcomes result rest ih =>
    cases before with
    | nil =>
      obtain ⟨⟨rfl, rfl⟩, rfl⟩ : (c = .begin ∧ outcome = none) ∧ outcomes = after := by simpa using hsplit
      have hstage : stage.next answer none = fetching := by
        cases stage <;> simp [call?] at hc
        rfl
      rw [hstage] at rest
      have hentries := rest.entries_le
      rw [rest.exits_eq]
      simp only [isBeforeTransaction, isInTransaction, Bool.toNat_false, Bool.toNat_true] at hentries ⊢
      omega
    | cons e before => exact ih (List.cons.inj hsplit).2

end Course

end StartStage

/-- A start takes the course of a reading, and adopts the schema of the snapshot that this came to. -/
theorem Router.exists_course_start (r : Router) (b : Backend) (j : Journal) :
    ∃ result k made, StartStage.Course b.answer .acquiring (b.outcomes j.calls made) result ∧
      k.calls = j.calls ++ made ∧
      r.start.runOn b j = (result.map fun s => r.adopt (buildSchema s r.options), k) := by
  obtain ⟨result, k, made, hrun, hcalls, hcourse⟩ := StartStage.exists_course b j .acquiring
  have hread : (Session.pooled Snapshot.read).runOn b j = (result, k) := hrun
  rw [start, Session.runOn_bind, hread]
  cases result with
  | ok s =>
    exact ⟨.ok s, { k with records := k.records ++ (SchemaResolution.ofSnapshot s r.options).records }, made,
      hcourse, hcalls, rfl⟩
  | error f => exact ⟨.error f, k, made, hcourse, hcalls, rfl⟩

/-! ## A router that is changed in place -/

/-- What makes a router introspect. -/
inductive Occasion where
  | started
  | announced (channel payload : String)

/-- What is logged on the occasion. -/
def Occasion.records : Occasion → List Log.Record
  | started => []
  | announced channel payload =>
    [Log.Logger.router.info s!"Schema change notified on {channel}, introspecting again",
     Log.Logger.router.debug s!"Notification payload: {payload}"]

namespace Router

def introspect (r : Router) : Occasion → Session Router
  | .started => r.start
  | .announced channel payload => r.restart channel payload

theorem runOn_introspect (r : Router) (o : Occasion) (b : Backend) (j : Journal) :
    (r.introspect o).runOn b j = r.start.runOn b { j with records := j.records ++ o.records } := by
  cases o with
  | started => simp [introspect, Occasion.records]
  | announced channel payload => rfl

end Router

/-- A session that changes a router in place: what was assigned stays when a fault follows. -/
abbrev RouterSession := ReaderT Backend (ExceptT Fault (StateM (Router × Journal)))

namespace RouterSession

variable {α β : Type}

def runOn (b : Backend) (r : Router) (j : Journal) (x : RouterSession α) :
    Except Fault α × Router × Journal := x b (r, j)

/-- A part that has nothing to do with the router. -/
def aside (x : Session α) : RouterSession α := fun b (r, j) => ((x.runOn b j).1, r, (x.runOn b j).2)

def introspect (o : Occasion) : RouterSession Unit := do
  aside (Session.log o.records)
  let s ← aside (Session.pooled Snapshot.read)
  let m ← aside (Session.buildSchema s (← get).1.options)
  modify fun (r, j) => (r.adopt m, j)

theorem runOn_bind (b : Backend) (r : Router) (j : Journal) (x : RouterSession α) (f : α → RouterSession β) :
    (x >>= f).runOn b r j =
      match x.runOn b r j with
      | (.ok a, r, j) => (f a).runOn b r j
      | (.error e, r, j) => (.error e, r, j) := by
  show (x >>= f) b (r, j) = _
  simp only [runOn]
  cases h : x b (r, j) with
  | mk result state =>
    cases result <;> simp [bind, ReaderT.bind, ExceptT.bind, ExceptT.mk, StateT.bind, h] <;> rfl

theorem runOn_aside (b : Backend) (r : Router) (j : Journal) (x : Session α) :
    (aside x).runOn b r j = ((x.runOn b j).1, r, (x.runOn b j).2) := rfl

/-- In place, a router becomes what its introspection gives, and stays as it is when that fails. -/
theorem runOn_introspect (o : Occasion) (b : Backend) (r : Router) (j : Journal) :
    (introspect o).runOn b r j =
      match (r.introspect o).runOn b j with
      | (.ok r', k) => (.ok (), r', k)
      | (.error f, k) => (.error f, r, k) := by
  rw [r.runOn_introspect, introspect, runOn_bind, runOn_aside, Session.runOn_log, Router.start,
    Session.runOn_bind]
  simp only [runOn_bind, runOn_aside]
  obtain ⟨f | s, k⟩ := (Session.pooled Snapshot.read).runOn b { j with records := j.records ++ o.records }
  · rfl
  · rfl

/-- The router is changed only when the reading came to a snapshot. -/
theorem exists_course (o : Occasion) (b : Backend) (r : Router) (j : Journal) :
    ∃ result k made, StartStage.Course b.answer .acquiring (b.outcomes j.calls made) result ∧
      k.calls = j.calls ++ made ∧
      (introspect o).runOn b r j =
        match result with
        | .ok s => (.ok (), r.adopt (buildSchema s r.options), k)
        | .error f => (.error f, r, k) := by
  obtain ⟨result, k, made, hcourse, hcalls, hrun⟩ :=
    r.exists_course_start b { j with records := j.records ++ o.records }
  refine ⟨result, k, made, hcourse, hcalls, ?_⟩
  rw [runOn_introspect, r.runOn_introspect, hrun]
  cases result <;> rfl

end RouterSession

/-! ## One attempt after the other -/

/-- A start or restart, with how its calls would end and what its query would return. -/
structure Attempt where
  occasion : Occasion
  backend : Backend

namespace Attempt

/-- An attempt that has ended, with the router and the journal before and after it. -/
structure Ended where
  attempt : Attempt
  before : Router × Journal
  result : Except Fault Unit
  after : Router × Journal

namespace Ended

/-- The calls made in the attempt, with how they ended. -/
def outcomes (e : Ended) : Outcomes :=
  e.attempt.backend.outcomes e.before.2.calls (e.after.2.calls.drop e.before.2.calls.length)

def HasCompleted (e : Ended) : Prop := e.result = .ok ()

/-- It is a start or a restart of the router that it met, which it leaves as it was if it fails. -/
def IsIntrospection (e : Ended) : Prop :=
  (e.result, e.after) =
    match (e.before.1.introspect e.attempt.occasion).runOn e.attempt.backend e.before.2 with
    | (.ok r, k) => (.ok (), r, k)
    | (.error f, k) => (.error f, e.before.1, k)

/-- What holds of every attempt, wherever it fails. -/
structure IsOrderly (e : Ended) : Prop where
  calls_prefix : e.before.2.calls <+: e.after.2.calls
  /-- It raises the last fault of its calls, or else it is as the answer says. -/
  result_eq : e.result =
    match e.outcomes.lastFault? with
    | some f => .error f
    | none => (Snapshot.ofAnswer e.attempt.backend.answer).map fun _ => ()
  kept : ¬ e.HasCompleted → e.after.1 = e.before.1
  adopted : e.HasCompleted → ∃ s, Snapshot.ofAnswer e.attempt.backend.answer = .ok s ∧
    e.after.1 = e.before.1.adopt (buildSchema s e.before.1.options)
  enters_once : e.outcomes.entries ≤ 1
  leaves_what_it_enters : e.outcomes.exits = e.outcomes.entries
  leaves_after_entry : ∀ earlier later, e.outcomes = earlier ++ (.begin, none) :: later →
    Outcomes.exits later = 1

end Ended

def undertake (a : Attempt) (before : Router × Journal) : Ended :=
  let run := (RouterSession.introspect a.occasion).runOn a.backend before.1 before.2
  ⟨a, before, run.1, run.2⟩

/-- Attempts made one after the other, and what they lead to. -/
def undertakeAll : List Attempt → Router × Journal → List Ended × Router × Journal
  | [], last => ([], last)
  | a :: as, before =>
    let e := a.undertake before
    let (es, last) := undertakeAll as e.after
    (e :: es, last)

theorem history_cons (a : Attempt) (as : List Attempt) (before : Router × Journal) :
    (undertakeAll (a :: as) before).1 =
      a.undertake before :: (undertakeAll as (a.undertake before).after).1 := rfl

theorem isIntrospection_undertake (a : Attempt) (before : Router × Journal) :
    (a.undertake before).IsIntrospection := RouterSession.runOn_introspect a.occasion a.backend before.1 before.2

/-- An attempt takes the course of a reading, and changes the router when that came to a snapshot. -/
theorem exists_course_undertake (a : Attempt) (before : Router × Journal) :
    ∃ result, StartStage.Course a.backend.answer .acquiring (a.undertake before).outcomes result ∧
      before.2.calls <+: (a.undertake before).after.2.calls ∧
      (a.undertake before).result = (result.map fun _ => ()) ∧
      (a.undertake before).after.1 =
        match result with
        | .ok s => before.1.adopt (buildSchema s before.1.options)
        | .error _ => before.1 := by
  obtain ⟨r, j⟩ := before
  obtain ⟨result, k, made, hcourse, hcalls, hrun⟩ := RouterSession.exists_course a.occasion a.backend r j
  have hafter : (a.undertake (r, j)).after.2 = k := by
    simp only [undertake, hrun]
    cases result <;> rfl
  refine ⟨result, ?_, ?_, ?_, ?_⟩
  · have hmade : (a.undertake (r, j)).outcomes = a.backend.outcomes j.calls made := by
      rw [Ended.outcomes, hafter, hcalls]
      exact congrArg _ List.drop_left
    rwa [hmade]
  · rw [hafter, hcalls]
    exact List.prefix_append ..
  · simp only [undertake, hrun]
    cases result <;> rfl
  · simp only [undertake, hrun]
    cases result <;> rfl

theorem isOrderly_undertake (a : Attempt) (before : Router × Journal) : (a.undertake before).IsOrderly := by
  obtain ⟨result, hcourse, hcalls, hresult, hafter⟩ := exists_course_undertake a before
  have hends := hcourse.result_eq
  refine
    { calls_prefix := hcalls, result_eq := ?_, kept := fun hfailed => ?_, adopted := fun hcompleted => ?_
      enters_once := hcourse.entries_le, leaves_what_it_enters := hcourse.exits_eq
      leaves_after_entry := fun _ _ => hcourse.exits_after_entry }
  · rw [hresult, hends]
    cases (a.undertake before).outcomes.lastFault? <;> rfl
  · cases result with
    | ok s => exact absurd hresult hfailed
    | error f => exact hafter
  · cases result with
    | ok s =>
      refine ⟨s, ?_, hafter⟩
      cases hlast : (a.undertake before).outcomes.lastFault? with
      | none =>
        rw [hlast] at hends
        exact hends.symm
      | some f =>
        rw [hlast] at hends
        cases hends
    | error f => cases hresult.symm.trans hcompleted

/-- Attempts that all fail leave the router as it was. -/
theorem kept_undertakeAll (as : List Attempt) (before : Router × Journal)
    (h : ∀ e ∈ (undertakeAll as before).1, ¬ e.HasCompleted) : (undertakeAll as before).2.1 = before.1 := by
  induction as generalizing before with
  | nil => rfl
  | cons a as ih =>
    obtain ⟨ha, has⟩ := List.forall_mem_cons.1 h
    exact (ih _ has).trans ((isOrderly_undertake a before).kept ha)

/-- An attempt changes nothing but the metadata. -/
theorem exists_metadata_undertake (a : Attempt) (before : Router × Journal) :
    ∃ m, (a.undertake before).after.1 = { before.1 with metadata := m } := by
  by_cases h : (a.undertake before).HasCompleted
  · obtain ⟨s, -, hs⟩ := (isOrderly_undertake a before).adopted h
    exact ⟨_, hs⟩
  · exact ⟨before.1.metadata, (isOrderly_undertake a before).kept h⟩

theorem isOrderly_of_mem_undertakeAll (as : List Attempt) (before : Router × Journal) :
    ∀ e ∈ (undertakeAll as before).1, e.IsIntrospection ∧ e.IsOrderly := by
  induction as generalizing before with
  | nil => exact fun e he => by cases he
  | cons a as ih =>
    have ha := And.intro (isIntrospection_undertake a before) (isOrderly_undertake a before)
    exact List.forall_mem_cons.2 ⟨ha, ih _⟩

theorem exists_metadata_undertakeAll (as : List Attempt) (before : Router × Journal) :
    ∃ m, (undertakeAll as before).2.1 = { before.1 with metadata := m } := by
  induction as generalizing before with
  | nil => exact ⟨before.1.metadata, rfl⟩
  | cons a as ih =>
    obtain ⟨m, hm⟩ := exists_metadata_undertake a before
    obtain ⟨m', hm'⟩ := ih (a.undertake before).after
    exact ⟨m', hm'.trans (by rw [hm])⟩

theorem metadata_undertakeAll (as : List Attempt) (before : Router × Journal) {earlier later : List Ended}
    {e : Ended} (hsplit : (undertakeAll as before).1 = earlier ++ e :: later) (he : e.HasCompleted)
    (hlater : ∀ e ∈ later, ¬ e.HasCompleted) :
    ∃ s, Snapshot.ofAnswer e.attempt.backend.answer = .ok s ∧
      (undertakeAll as before).2.1.metadata = some (buildSchema s before.1.options) := by
  induction as generalizing before earlier with
  | nil => simp [undertakeAll] at hsplit
  | cons a as ih =>
    cases earlier with
    | nil =>
      obtain ⟨rfl, rfl⟩ := List.cons.inj hsplit
      obtain ⟨s, hs, hadopt⟩ := (isOrderly_undertake a before).adopted he
      refine ⟨s, hs, ?_⟩
      have hkept : (undertakeAll (a :: as) before).2.1 = (a.undertake before).after.1 :=
        kept_undertakeAll as _ hlater
      rw [hkept, hadopt]
      rfl
    | cons x earlier =>
      obtain ⟨s, hs, hm⟩ := ih (a.undertake before).after (List.cons.inj hsplit).2
      obtain ⟨m, hoptions⟩ := exists_metadata_undertake a before
      refine ⟨s, hs, ?_⟩
      rw [hoptions] at hm
      exact hm

/-- Some attempt that completed is the last one. -/
theorem exists_last_completed {history : List Ended} (h : ∃ e ∈ history, e.HasCompleted) :
    ∃ earlier e later, history = earlier ++ e :: later ∧ e.HasCompleted ∧ ∀ e ∈ later, ¬ e.HasCompleted := by
  induction history with
  | nil => simp at h
  | cons x history ih =>
    by_cases hlater : ∃ e ∈ history, e.HasCompleted
    · obtain ⟨earlier, e, later, rfl, hlast⟩ := ih hlater
      exact ⟨x :: earlier, e, later, rfl, hlast⟩
    · have hx : x.HasCompleted := by
        obtain ⟨e, he, hcompleted⟩ := h
        rcases List.mem_cons.1 he with rfl | he
        · exact hcompleted
        · exact absurd ⟨e, he, hcompleted⟩ hlater
      exact ⟨[], x, history, rfl, hx, fun e he hcompleted => hlater ⟨e, he, hcompleted⟩⟩

/-- What is served after any attempts, each of them a start or a restart of the router: nothing while none has
completed, and then the schema of the snapshot that the last one to complete has read. An attempt that fails
raises its fault, changes nothing, and leaves the transaction that it entered as one that completes does. -/
theorem last_completed_is_served (attempts : List Attempt) (uri : Option String) (options : Options)
    (watches : Bool) (j : Journal) :
    let history := (undertakeAll attempts (.new uri options watches, j)).1
    let r := (undertakeAll attempts (.new uri options watches, j)).2.1
    (∀ e ∈ history, e.IsIntrospection ∧ e.IsOrderly) ∧
      (∃ m, r = { Router.new uri options watches with metadata := m }) ∧
      (r.schema = .refused 503 "Schema has not been introspected yet" ↔
        ∀ e ∈ history, ¬ e.HasCompleted) ∧
      ∀ earlier e later, history = earlier ++ e :: later → e.HasCompleted →
        (∀ e ∈ later, ¬ e.HasCompleted) →
        ∃ s, Snapshot.ofAnswer e.attempt.backend.answer = .ok s ∧
          r.schema = .document ((buildSchema s options).encode .byLabel) := by
  intro history r
  have hserved (earlier : List Ended) (e : Ended) (later : List Ended)
      (hsplit : history = earlier ++ e :: later) (he : e.HasCompleted) (hlater : ∀ e ∈ later, ¬ e.HasCompleted) :
      ∃ s, Snapshot.ofAnswer e.attempt.backend.answer = .ok s ∧
        r.schema = .document ((buildSchema s options).encode .byLabel) := by
    obtain ⟨s, hs, hmetadata⟩ := metadata_undertakeAll attempts _ hsplit he hlater
    refine ⟨s, hs, ?_⟩
    rw [Router.schema, show r.metadata = some (buildSchema s options) from hmetadata]
  refine ⟨isOrderly_of_mem_undertakeAll _ _, exists_metadata_undertakeAll _ _,
    ⟨fun hrefused e he hcompleted => ?_, fun hnone => ?_⟩, hserved⟩
  · obtain ⟨earlier, e, later, hsplit, he, hlater⟩ := exists_last_completed ⟨e, he, hcompleted⟩
    obtain ⟨s, -, hdocument⟩ := hserved earlier e later hsplit he hlater
    cases hrefused.symm.trans hdocument
  · have hkept : r = .new uri options watches := kept_undertakeAll attempts _ hnone
    rw [hkept]
    rfl

/-- On a backend without faults an attempt completes when the answer holds a snapshot. -/
theorem hasCompleted_undertake {a : Attempt} (hb : a.backend.IsCalm) {s : Snapshot}
    (hs : Snapshot.ofAnswer a.backend.answer = .ok s) (before : Router × Journal) :
    (a.undertake before).HasCompleted := by
  obtain ⟨r, j⟩ := before
  have hstart := r.yields_start hb hs { j with records := j.records ++ a.occasion.records }
  simp only [Ended.HasCompleted, undertake, RouterSession.runOn_introspect, Router.runOn_introspect]
  cases hrun : r.start.runOn a.backend { j with records := j.records ++ a.occasion.records } with
  | mk result k =>
    rw [hrun] at hstart
    obtain rfl : result = _ := hstart
    rfl

/-- The router of the small catalog is restarted when the commit fails, and when the answer is empty. -/
theorem sample_outlives_failed_restarts :
    let answer := some (Snapshot.sample.encode.render .compact)
    let lost : Fault := .raised .connection "connection was closed"
    let attempts : List Attempt :=
      [⟨.started, answer, fun _ _ => none⟩,
        ⟨.announced Watch.channel "alter table", answer, fun _ c => if c = .commit then some lost else none⟩,
        ⟨.announced Watch.channel "drop table", none, fun _ _ => none⟩]
    (undertakeAll attempts (.new none .default true, .empty)).2.1.schema =
      .document ((buildSchema .sample .default).encode .byLabel) := by
  intro answer lost attempts
  have hanswer : Snapshot.ofAnswer answer = .ok .sample := Snapshot.ofAnswer_sample
  clear_value answer
  have hlater (before : Router × Journal) :
      ∀ e ∈ (undertakeAll attempts.tail before).1, ¬ e.HasCompleted := by
    refine List.forall_mem_cons.2 ⟨fun h => ?_, List.forall_mem_cons.2 ⟨fun h => ?_, fun e he => by cases he⟩⟩
    · cases h
    · cases h
  obtain ⟨-, -, -, hserved⟩ := last_completed_is_served attempts none .default true .empty
  obtain ⟨s, hs, h⟩ := hserved [] _ _ (history_cons ..) (hasCompleted_undertake (fun _ _ => rfl) hanswer _)
    (hlater _)
  rw [h, show s = .sample from Except.ok.inj (hs.symm.trans hanswer)]

end Attempt

end CatalogSchema
