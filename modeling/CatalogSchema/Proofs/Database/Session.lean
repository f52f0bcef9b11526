import CatalogSchema.Database.Session

/-!
# Runs of sessions

How composed sessions run, and two ways to reason about them part by part: `Session.Keeps` says which
calls a session makes and what holds of the value it ends with, whatever the backend does; `Session.Yields`
says that it ends with a value, and which one.
-/

namespace CatalogSchema

/-- No call ends with a fault. -/
def Backend.IsCalm (b : Backend) : Prop := ∀ earlier c, b.fault? earlier c = none

namespace Session

variable {α β : Type} {b : Backend}

/-! ## Composed sessions -/

theorem runOn_read (b : Backend) (j : Journal) : (read : Session Backend).runOn b j = (.ok b, j) := rfl

theorem runOn_outcome? (b : Backend) (j : Journal) (c : Call) :
    (outcome? c).runOn b j = (.ok (b.fault? j.calls c), { j with calls := j.calls ++ [c] }) := by
  rw [outcome?, runOn_bind, runOn_attempt, runOn_perform]
  cases b.fault? j.calls c <;> rfl

/-- How a body that ended is closed by one of two calls. -/
def closed (b : Backend) (onSuccess onFault : Call) :
    Except Fault α × Journal → Except Fault α × Journal
  | (.ok a, k) =>
    (match b.fault? k.calls onSuccess with
      | none => .ok a
      | some f => .error f, { k with calls := k.calls ++ [onSuccess] })
  | (.error e, k) =>
    (.error ((b.fault? k.calls onFault).getD e), { k with calls := k.calls ++ [onFault] })

theorem calls_closed (c : Call) (run : Except Fault α × Journal) :
    (closed b c c run).2.calls = run.2.calls ++ [c] := by
  obtain ⟨_ | a, k⟩ := run <;> rfl

theorem runOn_bracket (b : Backend) (j : Journal) (body : Session α) (onSuccess onFault : Call) :
    (bracket body onSuccess onFault).runOn b j = closed b onSuccess onFault (body.runOn b j) := by
  rw [bracket, runOn_bind, runOn_attempt]
  obtain ⟨_ | a, k⟩ := body.runOn b j
  · simp only [runOn_bind, runOn_perform, runOn_conclude, closed]
    cases b.fault? k.calls onFault <;> rfl
  · simp only [runOn_bind, runOn_perform, runOn_conclude, closed]
    cases b.fault? k.calls onSuccess <;> rfl

/-- How the end of a body is reported. -/
def reported (logger operation : String) : Except Fault α × Journal → Except Fault α × Journal
  | (.ok a, k) => (.ok a, { k with records := k.records ++ [Log.timing logger operation none] })
  | (.error f, k) =>
    (.error f, { k with records := k.records ++
      if f.isCancellation then [] else [Log.timing logger operation (some f.message)] })

theorem runOn_timed (b : Backend) (j : Journal) (logger operation : String) (body : Session α) :
    (timed logger operation body).runOn b j = reported logger operation (body.runOn b j) := by
  rw [timed, runOn_bind, runOn_attempt]
  obtain ⟨_ | a, k⟩ := body.runOn b j <;>
    simp only [runOn_bind, runOn_log, runOn_conclude, reported]

/-- On a connection that is refused nothing is done. -/
theorem runOn_connected_of_fault {j : Journal} {uri : String} {f : Fault} (body : Session α)
    (h : b.fault? j.calls (.connect uri) = some f) :
    (connected uri body).runOn b j = (.error f, { j with calls := j.calls ++ [.connect uri] }) := by
  rw [connected, runOn_bind, runOn_perform, h]

theorem runOn_connected_of_none {j : Journal} {uri : String} (body : Session α)
    (h : b.fault? j.calls (.connect uri) = none) :
    (connected uri body).runOn b j =
      closed b .close .close (body.runOn b { j with calls := j.calls ++ [.connect uri] }) := by
  rw [connected, runOn_bind, runOn_perform, h]
  exact runOn_bracket ..

/-! ## Calls and values -/

/-- On the backend the session makes only calls with `P`, and a value that it ends with satisfies `Q`. -/
def Keeps (b : Backend) (P : Call → Prop) (Q : α → Prop) (x : Session α) : Prop :=
  ∀ j, (∃ made, (x.runOn b j).2.calls = j.calls ++ made ∧ ∀ c ∈ made, P c) ∧
    ∀ a, (x.runOn b j).1 = .ok a → Q a

section Keeps

variable {P : Call → Prop} {Q : α → Prop} {R : β → Prop}

theorem Keeps.pure {a : α} (h : Q a) : Keeps b P Q (pure a : Session α) := fun j =>
  ⟨⟨[], (List.append_nil _).symm, by simp⟩, fun a' ha => by cases ha; exact h⟩

theorem Keeps.bind {x : Session α} {f : α → Session β} (hx : Keeps b P Q x)
    (hf : ∀ a, Q a → Keeps b P R (f a)) : Keeps b P R (x >>= f) := by
  intro j
  obtain ⟨⟨made, hmade, hP⟩, hQ⟩ := hx j
  rw [runOn_bind]
  cases hrun : x.runOn b j with
  | mk r k =>
    rw [hrun] at hmade hQ
    cases r with
    | error e => exact ⟨⟨made, hmade, hP⟩, fun a ha => by cases ha⟩
    | ok a =>
      obtain ⟨⟨more, hmore, hP'⟩, hR⟩ := hf a (hQ a rfl) k
      refine ⟨⟨made ++ more, ?_, fun c hc => ?_⟩, hR⟩
      · rw [hmore, show k.calls = j.calls ++ made from hmade, List.append_assoc]
      · exact (List.mem_append.1 hc).elim (hP c) (hP' c)

theorem Keeps.mono {P' : Call → Prop} {x : Session α} (h : Keeps b P Q x) (hP : ∀ c, P c → P' c) :
    Keeps b P' Q x := by
  intro j
  obtain ⟨⟨made, hmade, hall⟩, hQ⟩ := h j
  exact ⟨⟨made, hmade, fun c hc => hP c (hall c hc)⟩, hQ⟩

theorem Keeps.log (records : List Log.Record) : Keeps b P (fun _ => True) (log records) := fun j =>
  ⟨⟨[], (List.append_nil _).symm, by simp⟩, fun _ _ => trivial⟩

theorem Keeps.perform {c : Call} (h : P c) : Keeps b P (fun _ => True) (perform c) := fun j =>
  ⟨⟨[c], rfl, by simpa using h⟩, fun _ _ => trivial⟩

theorem Keeps.attempt {x : Session α} (h : Keeps b P Q x) :
    Keeps b P (fun r => ∀ a, r = .ok a → Q a) (attempt x) := by
  intro j
  obtain ⟨hcalls, hQ⟩ := h j
  refine ⟨hcalls, fun r hr a ha => hQ a ?_⟩
  rw [← ha]
  exact Except.ok.inj hr

theorem Keeps.conclude {r : Except Fault α} (h : ∀ a, r = .ok a → Q a) : Keeps b P Q (conclude r) := by
  intro j
  rw [runOn_conclude]
  exact ⟨⟨[], (List.append_nil _).symm, by simp⟩, h⟩

theorem Keeps.bracket {body : Session α} {onSuccess onFault : Call} (h : Keeps b P Q body)
    (hs : P onSuccess) (hf : P onFault) : Keeps b P Q (bracket body onSuccess onFault) := by
  refine h.attempt.bind fun r hr => ?_
  cases r with
  | error e => exact (Keeps.perform hf).bind fun _ _ => .conclude hr
  | ok a => exact (Keeps.perform hs).bind fun _ _ => .conclude hr

theorem Keeps.connected {uri : String} {body : Session α} (h : Keeps b P Q body) (hu : P (.connect uri))
    (hc : P .close) : Keeps b P Q (connected uri body) :=
  (Keeps.perform hu).bind fun _ _ => h.bracket hc hc

theorem Keeps.transaction {body : Session α} (h : Keeps b P Q body) (hb : P .begin) (hc : P .commit)
    (hr : P .rollback) : Keeps b P Q (transaction body) :=
  (Keeps.perform hb).bind fun _ _ => h.bracket hc hr

theorem Keeps.timed {body : Session α} (h : Keeps b P Q body) (logger operation : String) :
    Keeps b P Q (timed logger operation body) := by
  refine h.attempt.bind fun r hr => ?_
  cases r with
  | error f => exact (Keeps.log _).bind fun _ _ => .conclude hr
  | ok a => exact (Keeps.log _).bind fun _ _ => .conclude hr

theorem Keeps.fetch (h : P .fetch) : Keeps b P (· = b.answer) fetch := by
  refine (Keeps.perform h).bind fun _ _ j => ?_
  exact ⟨⟨[], (List.append_nil _).symm, by simp⟩, fun a ha => (Except.ok.inj ha).symm⟩

end Keeps

/-! ## Backends without faults -/

/-- The session ends with the value, whatever was done before. -/
def Yields (b : Backend) (x : Session α) (a : α) : Prop := ∀ j, (x.runOn b j).1 = .ok a

section Yields

variable {a : α}

theorem Yields.pure (a : α) : Yields b (pure a) a := fun _ => rfl

theorem Yields.bind {x : Session α} {f : α → Session β} {c : β} (hx : Yields b x a)
    (hf : Yields b (f a) c) : Yields b (x >>= f) c := by
  intro j
  have hx := hx j
  rw [runOn_bind]
  cases hrun : x.runOn b j with
  | mk r k =>
    rw [hrun] at hx
    obtain rfl : r = .ok a := hx
    exact hf k

theorem Yields.log (records : List Log.Record) : Yields b (log records) () := fun _ => rfl

theorem Yields.conclude {r : Except Fault α} (h : r = .ok a) : Yields b (conclude r) a := by
  intro j
  rw [runOn_conclude, h]

variable (hb : b.IsCalm)

include hb

theorem Yields.perform (c : Call) : Yields b (perform c) () := by
  intro j
  rw [runOn_perform, hb]

theorem Yields.bracket {body : Session α} (h : Yields b body a) (onSuccess onFault : Call) :
    Yields b (bracket body onSuccess onFault) a := by
  intro j
  have h := h j
  rw [runOn_bracket]
  cases hrun : body.runOn b j with
  | mk r k =>
    rw [hrun] at h
    obtain rfl : r = .ok a := h
    simp only [closed, hb k.calls]

theorem Yields.connected {body : Session α} (h : Yields b body a) (uri : String) :
    Yields b (connected uri body) a :=
  (Yields.perform hb _).bind (h.bracket hb _ _)

theorem Yields.transaction {body : Session α} (h : Yields b body a) : Yields b (transaction body) a :=
  (Yields.perform hb _).bind (h.bracket hb _ _)

theorem Yields.fetch : Yields b fetch b.answer := (Yields.perform hb _).bind fun _ => rfl

omit hb in
theorem Yields.timed {body : Session α} (h : Yields b body a) (logger operation : String) :
    Yields b (timed logger operation body) a := by
  intro j
  have h := h j
  rw [runOn_timed]
  cases hrun : body.runOn b j with
  | mk r k =>
    rw [hrun] at h
    obtain rfl : r = .ok a := h
    rfl

end Yields

end Session

end CatalogSchema
