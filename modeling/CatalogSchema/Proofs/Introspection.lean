import CatalogSchema.Introspection
import CatalogSchema.Proofs.Database.Session

/-!
# What introspection does

A reading makes no calls but those of its transaction, and gives the snapshot in the answer of the query; a
configuration is refreshed from it. On a backend without faults both succeed on every answer that holds a
snapshot.
-/

namespace CatalogSchema

/-- The configuration with the metadata of a snapshot. -/
def Configuration.refresh (c : Configuration) (s : Snapshot) : Configuration :=
  { c with metadata := buildSchema s c.options }

/-- The calls of a reading inside its transaction. -/
def Call.IsReading (c : Call) : Prop := c ∈ [begin, fetch, commit, rollback]

variable {b : Backend}

theorem Snapshot.keeps_read :
    Session.Keeps b Call.IsReading (fun s => Snapshot.ofAnswer b.answer = .ok s) Snapshot.read := by
  have hanswer : Session.Keeps b Call.IsReading (· = b.answer) (Session.transaction Session.fetch) :=
    (Session.Keeps.fetch (by simp [Call.IsReading])).transaction (by simp [Call.IsReading])
      (by simp [Call.IsReading]) (by simp [Call.IsReading])
  refine (hanswer.bind fun answer ha => ?_).timed _ _
  subst ha
  exact (Session.Keeps.conclude fun _ => id).bind fun s hs =>
    (Session.Keeps.log _).bind fun _ _ => .pure hs

theorem Configuration.keeps_introspect (c : Configuration) :
    Session.Keeps b Call.IsReading
      (fun d => ∃ s, Snapshot.ofAnswer b.answer = .ok s ∧ d = c.refresh s) c.introspect := by
  refine Snapshot.keeps_read.bind fun s hs => ?_
  have hmetadata : Session.Keeps b Call.IsReading (· = CatalogSchema.buildSchema s c.options)
      (Session.buildSchema s c.options) :=
    (Session.Keeps.log _).bind fun _ _ => .pure rfl
  exact hmetadata.bind fun metadata hm => .pure ⟨s, hs, by rw [hm]; rfl⟩

theorem Snapshot.yields_read (hb : b.IsCalm) {s : Snapshot} (hs : ofAnswer b.answer = .ok s) :
    Session.Yields b read s :=
  ((((Session.Yields.fetch hb).transaction hb).bind
    ((Session.Yields.conclude hs).bind ((Session.Yields.log _).bind (.pure s))))).timed _ _

theorem Session.yields_buildSchema (s : Snapshot) (options : Options) :
    Session.Yields b (Session.buildSchema s options) (CatalogSchema.buildSchema s options) :=
  (Session.Yields.log _).bind (.pure _)

theorem Configuration.yields_introspect (hb : b.IsCalm) {s : Snapshot}
    (hs : Snapshot.ofAnswer b.answer = .ok s) (c : Configuration) :
    Session.Yields b c.introspect (c.refresh s) :=
  (Snapshot.yields_read hb hs).bind ((Session.yields_buildSchema s c.options).bind (.pure _))

end CatalogSchema
