import CatalogSchema.Proofs.Introspection
import CatalogSchema.Service.Router

/-!
# One start, step by step

A start holds one connection of the pool while it reads a snapshot: it begins a transaction, runs the
introspection query, commits, and hands the connection back. A fault leads through the clean-up that is due at
that point. `StartStage.next` is one step, and `Router.runOn_start` says that the steps taken one after the
other, with nothing in between, are the start of a router.
-/

namespace CatalogSchema

/-- What a start is waiting for, or how its reading ended. -/
inductive StartStage where
  | acquiring
  | beginning
  | fetching
  | committing (answer : Option String)
  | rollingBack (cause : Fault)
  | releasing (s : Snapshot)
  | discarding (cause : Fault)
  | finished (result : Except Fault Snapshot)

namespace StartStage

/-- The call that is waited for. -/
def call? : StartStage → Option Call
  | acquiring => some .acquire
  | beginning => some .begin
  | fetching => some .fetch
  | committing _ => some .commit
  | rollingBack _ => some .rollback
  | releasing _ => some .release
  | discarding _ => some .discard
  | finished _ => none

/-- The stage after the call ended; `answer` is what the query returns. It is looked at only after the commit. -/
def next (answer : Option String) : StartStage → Option Fault → StartStage
  | acquiring, none => beginning
  | acquiring, some f => finished (.error f)
  | beginning, none => fetching
  | beginning, some f => discarding f
  | fetching, none => committing answer
  | fetching, some f => rollingBack f
  | committing answer, none =>
    match Snapshot.ofAnswer answer with
    | .ok s => releasing s
    | .error f => discarding f
  | committing _, some f => discarding f
  | rollingBack cause, outcome => discarding (outcome.getD cause)
  | releasing s, none => finished (.ok s)
  | releasing _, some f => finished (.error f)
  | discarding cause, outcome => finished (.error (outcome.getD cause))
  | finished result, _ => finished result

/-- What is logged about a reading that ended with a fault. -/
def failureRecords (f : Fault) : List Log.Record :=
  if f.isCancellation then []
  else [Log.timing Log.Logger.snapshot.name "catalog introspection" (some f.message)]

/-- What is logged when the call ended. -/
def records : StartStage → Option Fault → List Log.Record
  | beginning, some f | committing _, some f => failureRecords f
  | committing answer, none =>
    match Snapshot.ofAnswer answer with
    | .ok s => [s.readRecord, Log.timing Log.Logger.snapshot.name "catalog introspection" none]
    | .error f => failureRecords f
  | rollingBack cause, outcome => failureRecords (outcome.getD cause)
  | _, _ => []

/-- A bound on the calls up to the end. -/
def rank : StartStage → Nat
  | acquiring => 5
  | beginning => 4
  | fetching => 3
  | committing _ | rollingBack _ => 2
  | releasing _ | discarding _ => 1
  | finished _ => 0

/-- Make the call and take the step. -/
def advance (stage : StartStage) : Session StartStage := do
  match stage.call? with
  | none => return stage
  | some c =>
    let outcome ← Session.outcome? c
    Session.log (stage.records outcome)
    return stage.next (← read).answer outcome

/-- At most `steps` steps. -/
def run : (steps : Nat) → StartStage → Session StartStage
  | 0, stage => return stage
  | steps + 1, stage => do
    run steps (← stage.advance)

theorem rank_next_le (answer : Option String) (stage : StartStage) (outcome : Option Fault) :
    (stage.next answer outcome).rank ≤ stage.rank - 1 := by
  match stage, outcome with
  | acquiring, none | acquiring, some _ | beginning, none | beginning, some _ | fetching, none
  | fetching, some _ | committing _, some _ | rollingBack _, _ | releasing _, none | releasing _, some _
  | discarding _, _ | finished _, _ => simp [next, rank]
  | committing answer, none =>
    simp only [next]
    split <;> simp [rank]

end StartStage

namespace StartStage

theorem runOn_advance (b : Backend) (j : Journal) {stage : StartStage} {c : Call}
    (h : stage.call? = some c) :
    stage.advance.runOn b j =
      (.ok (stage.next b.answer (b.fault? j.calls c)),
        ⟨j.calls ++ [c], j.records ++ stage.records (b.fault? j.calls c)⟩) := by
  simp only [advance, h, Session.runOn_bind, Session.runOn_outcome?, Session.runOn_log, Session.runOn_read,
    Session.runOn_pure]

open Session (bracket conclude log perform)

/-- Report on a reading. -/
abbrev timed (body : Session Snapshot) : Session Snapshot :=
  Session.timed Log.Logger.snapshot.name "catalog introspection" body

/-- Look at the answer. -/
def accept (answer : Option String) : Session Snapshot := do
  let s ← conclude (Snapshot.ofAnswer answer)
  log [s.readRecord]
  return s

/-- What is left of the reading at a stage. -/
def rest : StartStage → Session Snapshot
  | acquiring => Session.pooled Snapshot.read
  | beginning => bracket Snapshot.read .release .discard
  | fetching =>
    bracket (timed do accept (← bracket Session.fetch .commit .rollback)) .release .discard
  | committing answer => bracket (timed do perform .commit; accept answer) .release .discard
  | rollingBack cause => bracket (timed do perform .rollback; throw cause) .release .discard
  | releasing s => do perform .release; return s
  | discarding cause => do perform .discard; throw cause
  | finished result => conclude result

theorem runOn_throw (b : Backend) (j : Journal) (f : Fault) :
    (throw f : Session Snapshot).runOn b j = (.error f, j) := rfl

/-- One step of a stage is one step of what is left of the reading. -/
theorem runOn_rest (b : Backend) (j : Journal) {stage : StartStage} {c : Call}
    (h : stage.call? = some c) :
    stage.rest.runOn b j =
      (stage.next b.answer (b.fault? j.calls c)).rest.runOn b
        ⟨j.calls ++ [c], j.records ++ stage.records (b.fault? j.calls c)⟩ := by
  cases stage with
  | acquiring =>
    cases h
    simp only [rest, Session.pooled, Session.runOn_bind, Session.runOn_perform]
    cases b.fault? j.calls .acquire <;> simp [next, records, Session.runOn_conclude]
  | beginning =>
    cases h
    simp only [rest, Session.runOn_bracket, Snapshot.read, Session.runOn_timed, Session.transaction,
      Session.runOn_bind, Session.runOn_perform]
    cases b.fault? j.calls .begin with
    | none =>
      simp only [next, records, Session.runOn_bracket, Session.runOn_timed, Session.runOn_bind,
        List.append_nil, accept]
    | some f =>
      simp only [next, records, Session.runOn_bind, Session.runOn_perform, Session.reported,
        Session.closed, failureRecords, runOn_throw]
      cases b.fault? (j.calls ++ [.begin]) .discard <;> rfl
  | fetching =>
    cases h
    simp only [rest, Session.runOn_bracket, Session.runOn_timed, Session.runOn_bind, Session.fetch,
      Session.runOn_perform]
    cases b.fault? j.calls .fetch with
    | none =>
      simp only [next, records, Session.runOn_bracket, Session.runOn_timed, Session.runOn_bind,
        List.append_nil, Session.runOn_read, Session.runOn_pure, Session.closed, Session.runOn_perform]
      cases b.fault? (j.calls ++ [.fetch]) .commit <;> rfl
    | some f =>
      simp only [next, records, Session.runOn_bracket, Session.runOn_timed, Session.runOn_bind,
        List.append_nil, Session.closed, Session.runOn_perform, runOn_throw]
      cases b.fault? (j.calls ++ [.fetch]) .rollback <;> rfl
  | committing answer =>
    cases h
    simp only [rest, Session.runOn_bracket, Session.runOn_timed, Session.runOn_bind, accept,
      Session.runOn_perform, Session.runOn_conclude]
    cases b.fault? j.calls .commit with
    | none =>
      simp only [next, records]
      cases Snapshot.ofAnswer answer with
      | ok s =>
        simp only [Session.runOn_log, Session.runOn_pure, Session.reported, Session.closed,
          Session.runOn_bind, Session.runOn_perform, List.append_assoc, List.cons_append, List.nil_append]
        cases b.fault? (j.calls ++ [.commit]) .release <;> rfl
      | error f =>
        simp only [Session.reported, Session.closed, Session.runOn_bind, Session.runOn_perform,
          failureRecords, runOn_throw]
        cases b.fault? (j.calls ++ [.commit]) .discard <;> rfl
    | some f =>
      simp only [next, records, Session.reported, Session.closed, Session.runOn_bind, Session.runOn_perform,
        failureRecords, runOn_throw]
      cases b.fault? (j.calls ++ [.commit]) .discard <;> rfl
  | rollingBack cause =>
    cases h
    simp only [rest, Session.runOn_bracket, Session.runOn_timed, Session.runOn_bind, Session.runOn_perform,
      next, records, failureRecords]
    cases b.fault? j.calls .rollback <;>
      simp only [Session.reported, Session.closed, runOn_throw, Option.getD_none, Option.getD_some] <;>
      cases b.fault? (j.calls ++ [.rollback]) .discard <;> rfl
  | releasing s =>
    cases h
    simp only [rest, Session.runOn_bind, Session.runOn_perform, Session.runOn_pure, next, records,
      List.append_nil]
    cases b.fault? j.calls .release <;> rfl
  | discarding cause =>
    cases h
    simp only [rest, Session.runOn_bind, Session.runOn_perform, runOn_throw, next, records,
      List.append_nil]
    cases b.fault? j.calls .discard <;> rfl
  | finished result => cases h

/-- The steps taken one after the other end as what is left of the reading ends. -/
theorem exists_runOn_run (b : Backend) (j : Journal) (steps : Nat) (stage : StartStage)
    (h : stage.rank ≤ steps) :
    ∃ result k, (run steps stage).runOn b j = (.ok (finished result), k) ∧
      stage.rest.runOn b j = (result, k) := by
  induction steps generalizing stage j with
  | zero =>
    cases stage with
    | finished result => exact ⟨result, j, rfl, Session.runOn_conclude b j result⟩
    | _ => simp [rank] at h
  | succ steps ih =>
    cases hc : stage.call? with
    | none =>
      cases stage with
      | finished result =>
        obtain ⟨r, k, hr, hk⟩ := ih j (finished result) (by simp [rank])
        refine ⟨r, k, ?_, hk⟩
        rw [run, Session.runOn_bind]
        exact hr
      | _ => cases hc
    | some c =>
      obtain ⟨result, k, hrun, hrest⟩ := ih _ (stage.next b.answer (b.fault? j.calls c))
        (Nat.le_trans (rank_next_le _ _ _) (by omega))
      refine ⟨result, k, ?_, (runOn_rest b j hc).trans hrest⟩
      rw [run, Session.runOn_bind, runOn_advance b j hc]
      exact hrun

/-- Take steps up to the end. -/
def settle (stage : StartStage) : Session StartStage := run stage.rank stage

end StartStage

/-- A start is its steps up to the end, then the schema of the snapshot that was read. -/
theorem Router.runOn_start (r : Router) (b : Backend) (j : Journal) :
    ∃ result k, StartStage.acquiring.settle.runOn b j = (.ok (.finished result), k) ∧
      r.start.runOn b j =
        match result with
        | .ok s => (.ok (r.adopt (buildSchema s r.options)),
            { k with records := k.records ++ (SchemaResolution.ofSnapshot s r.options).records })
        | .error f => (.error f, k) := by
  obtain ⟨result, k, hrun, hrest⟩ := StartStage.exists_runOn_run b j _ .acquiring (Nat.le_refl _)
  refine ⟨result, k, hrun, ?_⟩
  have hread : (Session.pooled Snapshot.read).runOn b j = (result, k) := hrest
  rw [start, Session.runOn_bind, hread]
  cases result <;> rfl

/-- Without faults a start adopts the schema of every snapshot that the database answers with. -/
theorem Router.yields_start {b : Backend} (hb : b.IsCalm) {s : Snapshot}
    (hs : Snapshot.ofAnswer b.answer = .ok s) (r : Router) :
    Session.Yields b r.start (r.adopt (buildSchema s r.options)) := by
  have hpooled : Session.Yields b (Session.pooled Snapshot.read) s :=
    (Session.Yields.perform hb _).bind ((Snapshot.yields_read hb hs).bracket hb _ _)
  exact hpooled.bind ((Session.yields_buildSchema s r.options).bind (.pure _))

end CatalogSchema
