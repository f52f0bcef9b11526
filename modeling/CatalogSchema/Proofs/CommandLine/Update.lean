import CatalogSchema.CommandLine.Execution
import CatalogSchema.Proofs.Catalog.Answer
import CatalogSchema.Proofs.FileTree
import CatalogSchema.Proofs.Introspection
import CatalogSchema.Proofs.Schema.RoundTrip
import CatalogSchema.Proofs.Text.Encoding
import Mathlib.Logic.Relation

/-!
# Updates of a configuration

An update ends well with the metadata of the configuration replaced, or it ends badly with the file as it
was; only where the encoding does not take the refreshed configuration it ends badly and leaves an empty
file. Either way a connection that was made is closed once (`update_all_or_nothing`). What the metadata
becomes does not depend on what it was, so updating again from the same answer changes nothing, and no
update that leaves a file with something in it changes the settings.
-/

namespace CatalogSchema

namespace Configuration

/-- What is in a configuration apart from the metadata; the version is the same in all of them. -/
def settings (c : Configuration) : String × String × Options := (version, c.connectionUri, c.options)

theorem refresh_refresh (c : Configuration) (s : Snapshot) : (c.refresh s).refresh s = c.refresh s := by
  simp only [refresh]

theorem settings_refresh (c : Configuration) (s : Snapshot) : (c.refresh s).settings = c.settings := by
  simp only [settings, refresh]

/-- A character beyond ASCII in the address is written as it is. -/
theorem mem_write_of_mem_connectionUri {c : Configuration} {ch : Char} (h : ch ∈ c.connectionUri.toList)
    (hch : 0x80 ≤ ch.toNat) : ch ∈ c.write.toList := by
  have hascii : ∀ {d : Char}, d.toNat < 0x80 → ch ≠ d := by
    rintro d hd rfl
    omega
  have hescape : Json.escapeChar ch = [ch] := by
    simp [Json.escapeChar, hascii, show ¬ ch.toNat < 0x20 by omega]
  have huri : ch ∈ Json.renderString c.connectionUri := by
    have : ch ∈ c.connectionUri.toList.flatMap Json.escapeChar :=
      List.mem_flatMap.2 ⟨ch, h, by simp [hescape]⟩
    simp [Json.renderString, this]
  simp [write, encode, Json.render, Json.renderAt, Json.renderMembers, huri]

end Configuration

/-! ## The file -/

theorem Checked.orFault_eq_ok_iff {α : Type} {model : String} {x : Checked α} {a : α} :
    x.orFault model = .ok a ↔ x = .ok a := by
  cases x <;> simp [Checked.orFault]

namespace ContextFolder

variable {folder : ContextFolder} {files : FileTree} {c : Configuration}

theorem load_eq_ok_iff : folder.load files = .ok c ↔
    ∃ text, files.read folder.file = .ok text ∧ Configuration.load text = .ok c := by
  unfold load
  cases files.read folder.file with
  | error problem =>
    refine ⟨fun h => ?_, fun ⟨text, h, _⟩ => ?_⟩
    · cases h
    · cases h
  | ok text =>
    show (Configuration.load text).orFault _ = _ ↔ _
    rw [Checked.orFault_eq_ok_iff]
    simp

/-- A configuration is loaded from a file. -/
theorem exists_resolve_of_load (h : folder.load files = .ok c) :
    ∃ place old, files.resolve folder.file = .ok ⟨place, .file old⟩ := by
  obtain ⟨text, hread, -⟩ := load_eq_ok_iff.1 h
  obtain ⟨old, hold, -⟩ := FileTree.read_eq_ok_iff.1 hread
  obtain ⟨place, hresolve⟩ := FileTree.exists_resolve_of_content hold
  exact ⟨place, old, hresolve⟩

section Store

variable {place : Place} {old : FileContent}
  (hresolve : files.resolve folder.file = .ok ⟨place, .file old⟩)

include hresolve

theorem store_of_encode {new : FileContent} (h : files.encoding.encode c.write = .ok new) :
    folder.store files c = (files.put place (.file new), none) := by
  rw [store, FileTree.writeText_of_encode (FileTree.place_of_resolve hresolve) h]
  rfl

/-- What has no encoding is told, and leaves an empty file. -/
theorem exists_store_of_not_takes (h : ¬ files.encoding.Takes c.write) :
    ∃ message, folder.store files c =
      (files.put place (.file .empty), some (.raised .value message)) := by
  cases hencode : files.encoding.encode c.write with
  | ok new => exact absurd ⟨new, hencode⟩ h
  | error message =>
    rw [store, FileTree.writeText_of_error (FileTree.place_of_resolve hresolve) hencode]
    exact ⟨message, rfl⟩

/-- In an encoding that reads back what it wrote, the configuration is loaded again. -/
theorem load_put (hfaithful : files.encoding.IsFaithful) {new : FileContent}
    (h : files.encoding.encode c.write = .ok new) :
    (files.put place (.file new)).read folder.file = .ok c.write ∧
      folder.load (files.put place (.file new)) = .ok c := by
  have hcontent := FileTree.content_of_resolve (FileTree.resolve_put_of_resolve hresolve new)
  have hread : (files.put place (.file new)).read folder.file = .ok c.write :=
    FileTree.read_eq_ok_iff.2 ⟨new, hcontent, hfaithful _ _ h⟩
  exact ⟨hread, load_eq_ok_iff.2 ⟨_, hread, c.load_write⟩⟩

end Store

theorem isSetUp_of_load (h : folder.load files = .ok c) : folder.isSetUp files = .ok true := by
  obtain ⟨place, old, hresolve⟩ := exists_resolve_of_load h
  rw [isSetUp, FileTree.isThere, hresolve]
  rfl

end ContextFolder

/-! ## Connections -/

namespace Backend

variable {b : Backend}

/-- One of the calls is to connect, and ended without a fault. -/
def Connects (b : Backend) (calls : List Call) : Prop :=
  ∃ earlier uri later, calls = earlier ++ .connect uri :: later ∧
    b.fault? earlier (.connect uri) = none

/-- The connection is closed once where there is one, and nothing is closed otherwise. -/
def ClosesOnce (b : Backend) (calls : List Call) : Prop :=
  (b.Connects calls → calls.count .close = 1) ∧ (¬ b.Connects calls → calls.count .close = 0)

theorem closesOnce_nil : b.ClosesOnce [] := by
  refine ⟨fun ⟨earlier, uri, later, h, _⟩ => ?_, fun _ => rfl⟩
  simp at h

theorem closesOnce_refused {uri : String} {f : Fault} (h : b.fault? [] (.connect uri) = some f) :
    b.ClosesOnce [.connect uri] := by
  refine ⟨fun ⟨earlier, uri', later, hcalls, hnone⟩ => ?_, fun _ => by simp⟩
  cases earlier with
  | nil =>
    cases hcalls
    rw [h] at hnone
    cases hnone
  | cons c earlier => simp at hcalls

theorem closesOnce_closed {uri : String} (h : b.fault? [] (.connect uri) = none) {made : List Call}
    (hmade : ∀ c ∈ made, c ≠ .close) : b.ClosesOnce (.connect uri :: made ++ [.close]) := by
  have hconnects : b.Connects (.connect uri :: made ++ [.close]) := ⟨[], uri, made ++ [.close], rfl, h⟩
  have hnone : made.count .close = 0 := List.count_eq_zero.2 fun hm => hmade _ hm rfl
  exact ⟨fun _ => by simp [hnone], fun hnot => absurd hconnects hnot⟩

end Backend

namespace CommandLine.Execution

/-! ## One update -/

variable {b : Backend} {files : FileTree} {folder : ContextFolder} {env : Environment}

/-- An update of the folder on the backend ends as `e` and makes the calls. -/
def Updates (folder : ContextFolder) (env : Environment) (b : Backend) (files : FileTree) (e : Execution)
    (calls : List Call) : Prop :=
  ∃ records, (update files folder env).runOn b .empty = (.ok e, ⟨calls, records⟩)

/-- The configuration in the files, refreshed from the answer, is `d`. -/
def Refreshes (folder : ContextFolder) (env : Environment) (answer : Option String) (files : FileTree)
    (d : Configuration) : Prop :=
  ∃ c uri s, folder.load files = .ok c ∧ c.address env = .ok uri ∧ Snapshot.ofAnswer answer = .ok s ∧
    d = c.refresh s

theorem keeps_refreshed :
    Session.Keeps b (fun _ => True) (Refreshes folder env b.answer files) (refreshed files folder env) := by
  refine (Session.Keeps.conclude fun _ => id).bind fun c (hc : folder.load files = .ok c) => ?_
  refine (Session.Keeps.conclude fun _ => id).bind fun uri (huri : c.address env = .ok uri) => ?_
  have hintrospect : Session.Keeps b (fun _ => True)
      (fun d => ∃ s, Snapshot.ofAnswer b.answer = .ok s ∧ d = c.refresh s)
      (Session.connected uri c.introspect) :=
    (c.keeps_introspect.mono fun _ _ => trivial).connected trivial trivial
  intro j
  obtain ⟨hcalls, hvalue⟩ := hintrospect j
  refine ⟨hcalls, fun d hd => ?_⟩
  obtain ⟨s, hs, hrefresh⟩ := hvalue d hd
  exact ⟨c, uri, s, hc, huri, hs, hrefresh⟩

theorem closesOnce_connected (c : Configuration) (uri : String) :
    b.ClosesOnce ((Session.connected uri c.introspect).runOn b .empty).2.calls := by
  cases hfault : b.fault? [] (.connect uri) with
  | some f =>
    rw [Session.runOn_connected_of_fault _ hfault]
    exact Backend.closesOnce_refused hfault
  | none =>
    obtain ⟨⟨made, hmade, hreading⟩, -⟩ := c.keeps_introspect (b := b) ⟨[.connect uri], []⟩
    rw [Session.runOn_connected_of_none _ hfault, Session.calls_closed]
    show b.ClosesOnce ((c.introspect.runOn b ⟨[.connect uri], []⟩).2.calls ++ [.close])
    rw [hmade]
    refine Backend.closesOnce_closed hfault fun c hc hclose => ?_
    have hread := hreading c hc
    rw [hclose] at hread
    simp [Call.IsReading] at hread

theorem closesOnce_refreshed : b.ClosesOnce ((refreshed files folder env).runOn b .empty).2.calls := by
  unfold refreshed
  rw [Session.runOn_bind, Session.runOn_conclude]
  cases folder.load files with
  | error f => exact Backend.closesOnce_nil
  | ok c =>
    show b.ClosesOnce (Session.runOn b .empty (Session.conclude (c.address env) >>= _)).2.calls
    rw [Session.runOn_bind, Session.runOn_conclude]
    cases c.address env with
    | error f => exact Backend.closesOnce_nil
    | ok uri => exact closesOnce_connected c uri

theorem yields_refreshed (hb : b.IsCalm) {c : Configuration} {uri : String} {s : Snapshot}
    (hc : folder.load files = .ok c) (huri : c.address env = .ok uri)
    (hs : Snapshot.ofAnswer b.answer = .ok s) :
    Session.Yields b (refreshed files folder env) (c.refresh s) :=
  (Session.Yields.conclude hc).bind <| (Session.Yields.conclude huri).bind <|
    (c.yields_introspect hb hs).connected hb uri

/-- The execution that an update with a fault ends as. -/
def faulty (files : FileTree) (f : Fault) : Execution :=
  if f.isExpected then failed files f.message else escape files f

theorem exit_faulty (f : Fault) : (faulty files f).exit ≠ 0 := by
  cases hf : f.isExpected <;> simp [faulty, hf, failed, escape]

theorem files_faulty (f : Fault) : (faulty files f).files = files := by
  cases hf : f.isExpected <;> simp [faulty, hf, failed, escape]

theorem runOn_interrupted (f : Fault) (j : Journal) :
    ∃ records, (interrupted files f).runOn b j = (.ok (faulty files f), ⟨j.calls, records⟩) := by
  cases hf : f.isExpected
  · exact ⟨j.records, by simp [interrupted, faulty, hf, Session.runOn_pure]⟩
  · exact ⟨_, by simp only [interrupted, faulty, hf, if_true, Session.runOn_bind, Session.runOn_log]; rfl⟩

/-- The execution that an update ends as, by how its session with the database ended. -/
def concluded (files : FileTree) (folder : ContextFolder) : Except Fault Configuration → Execution
  | .error f => faulty files f
  | .ok d =>
    match folder.store files d with
    | (files, none) => done files (updateSummary folder d.metadata)
    | (files, some f) => faulty files f

section Concluded

variable {d : Configuration} {place : Place} {old : FileContent}
  (hresolve : files.resolve folder.file = .ok ⟨place, .file old⟩)

include hresolve

theorem concluded_of_encode {new : FileContent} (h : files.encoding.encode d.write = .ok new) :
    (concluded files folder (.ok d)).exit = 0 ∧
      (concluded files folder (.ok d)).files = files.put place (.file new) := by
  simp only [concluded, ContextFolder.store_of_encode hresolve h]
  exact ⟨rfl, rfl⟩

theorem concluded_of_not_takes (h : ¬ files.encoding.Takes d.write) :
    (concluded files folder (.ok d)).exit ≠ 0 ∧
      (concluded files folder (.ok d)).files = files.put place (.file .empty) := by
  obtain ⟨message, hstore⟩ := ContextFolder.exists_store_of_not_takes hresolve h
  simp only [concluded, hstore]
  exact ⟨exit_faulty _, files_faulty _⟩

end Concluded

theorem updates_of_isSetUp (h : folder.isSetUp files = .ok true) :
    Updates folder env b files (concluded files folder ((refreshed files folder env).runOn b .empty).1)
      ((refreshed files folder env).runOn b .empty).2.calls := by
  unfold Updates update
  rw [h]
  simp only [Session.runOn_bind, Session.runOn_attempt]
  obtain ⟨f | d, k⟩ := (refreshed files folder env).runOn b .empty
  · exact runOn_interrupted f k
  · simp only [concluded]
    obtain ⟨files', _ | f⟩ := folder.store files d
    · exact ⟨k.records, rfl⟩
    · exact runOn_interrupted f k

/-- How an update of the folder can end. -/
inductive Outcome (folder : ContextFolder) (env : Environment) (answer : Option String) (files : FileTree) :
    Execution → Prop where
  /-- Well, with the refreshed configuration in the file. -/
  | replaced {e : Execution} {d : Configuration} {place : Place} {old new : FileContent}
      (hexit : e.exit = 0) (hrefreshes : Refreshes folder env answer files d)
      (hresolve : files.resolve folder.file = .ok ⟨place, .file old⟩)
      (hencode : files.encoding.encode d.write = .ok new)
      (hfiles : e.files = files.put place (.file new)) : Outcome folder env answer files e
  /-- Badly, with all files as they were. -/
  | unchanged {e : Execution} (hexit : e.exit ≠ 0) (hfiles : e.files = files) :
      Outcome folder env answer files e
  /-- Badly, with nothing in the file, as the encoding does not take the refreshed configuration. -/
  | emptied {e : Execution} {d : Configuration} {place : Place} {old : FileContent}
      (hexit : e.exit ≠ 0) (hrefreshes : Refreshes folder env answer files d)
      (hresolve : files.resolve folder.file = .ok ⟨place, .file old⟩)
      (hencode : ¬ files.encoding.Takes d.write)
      (hfiles : e.files = files.put place (.file .empty)) : Outcome folder env answer files e

/-- A refreshed configuration is stored, or the attempt leaves an empty file. -/
theorem outcome_concluded {answer : Option String} {d : Configuration}
    (h : Refreshes folder env answer files d) :
    Outcome folder env answer files (concluded files folder (.ok d)) := by
  obtain ⟨c, -, -, hc, -⟩ := id h
  obtain ⟨place, old, hresolve⟩ := ContextFolder.exists_resolve_of_load hc
  by_cases htakes : files.encoding.Takes d.write
  · obtain ⟨new, hencode⟩ := htakes
    obtain ⟨hexit, hfiles⟩ := concluded_of_encode hresolve hencode
    exact .replaced hexit h hresolve hencode hfiles
  · obtain ⟨hexit, hfiles⟩ := concluded_of_not_takes hresolve htakes
    exact .emptied hexit h hresolve htakes hfiles

/-- Every update ends, in one of the three ways, and closes its connection once. -/
theorem exists_updates (b : Backend) (files : FileTree) (folder : ContextFolder) (env : Environment) :
    ∃ e calls, Updates folder env b files e calls ∧ b.ClosesOnce calls ∧
      Outcome folder env b.answer files e := by
  cases hsetUp : folder.isSetUp files with
  | error f =>
    refine ⟨escape files f, [], ⟨[], ?_⟩, Backend.closesOnce_nil, .unchanged Nat.one_ne_zero rfl⟩
    rw [update, hsetUp]
    rfl
  | ok there =>
    cases there with
    | false =>
      refine ⟨failed files s!"{Configuration.fileName} not found in {folder.shown}", [], ⟨[], ?_⟩,
        Backend.closesOnce_nil, .unchanged Nat.one_ne_zero rfl⟩
      rw [update, hsetUp]
      rfl
    | true =>
      refine ⟨_, _, updates_of_isSetUp hsetUp, closesOnce_refreshed, ?_⟩
      have hkeeps : Session.Keeps b (fun _ => True) (Refreshes folder env b.answer files)
          (refreshed files folder env) := keeps_refreshed
      obtain ⟨-, hrefreshes⟩ := hkeeps .empty
      cases hrun : ((refreshed files folder env).runOn b .empty).1 with
      | error f => exact .unchanged (exit_faulty f) (files_faulty f)
      | ok d => exact outcome_concluded (hrefreshes d hrun)

/-- An update ends in one way. -/
theorem Updates.unique {e e' : Execution} {calls calls' : List Call}
    (h : Updates folder env b files e calls) (h' : Updates folder env b files e' calls') :
    e = e' ∧ calls = calls' := by
  obtain ⟨records, h⟩ := h
  obtain ⟨records', h'⟩ := h'
  rw [h] at h'
  cases h'
  exact ⟨rfl, rfl⟩

theorem Updates.outcome {e : Execution} {calls : List Call} (h : Updates folder env b files e calls) :
    Outcome folder env b.answer files e := by
  obtain ⟨e', calls', h', -, houtcome⟩ := exists_updates b files folder env
  obtain ⟨rfl, rfl⟩ := h.unique h'
  exact houtcome

/-- Without faults an update comes to writing the refreshed configuration. -/
theorem Updates.eq_concluded (hb : b.IsCalm) {e : Execution} {calls : List Call}
    (h : Updates folder env b files e calls) {d : Configuration}
    (hd : Refreshes folder env b.answer files d) : e = concluded files folder (.ok d) := by
  obtain ⟨c, uri, s, hc, huri, hs, rfl⟩ := hd
  obtain ⟨rfl, -⟩ := h.unique (updates_of_isSetUp (ContextFolder.isSetUp_of_load hc))
  rw [yields_refreshed hb hc huri hs .empty]

/-- Then it succeeds if the encoding takes what is to be written. -/
theorem Updates.exit_eq_zero (hb : b.IsCalm) {e : Execution} {calls : List Call}
    (h : Updates folder env b files e calls) {d : Configuration}
    (hd : Refreshes folder env b.answer files d) (htakes : files.encoding.Takes d.write) :
    e.exit = 0 := by
  obtain ⟨c, -, -, hc, -⟩ := id hd
  obtain ⟨place, old, hresolve⟩ := ContextFolder.exists_resolve_of_load hc
  obtain ⟨new, hencode⟩ := htakes
  rw [h.eq_concluded hb hd]
  exact (concluded_of_encode hresolve hencode).1

/-! ## Updates one after the other -/

namespace Refreshes

variable {answer : Option String} {d d' : Configuration}

/-- There is one refreshed configuration, also from another environment. -/
theorem unique {env' : Environment} (h : Refreshes folder env answer files d)
    (h' : Refreshes folder env' answer files d') : d = d' := by
  obtain ⟨c, -, s, hc, -, hs, rfl⟩ := h
  obtain ⟨c', -, s', hc', -, hs', rfl⟩ := h'
  obtain rfl : c = c' := Except.ok.inj (hc.symm.trans hc')
  obtain rfl : s = s' := Except.ok.inj (hs.symm.trans hs')
  rfl

/-- Loaded again and refreshed from the same answer, it stays as it is. -/
theorem again {env' : Environment} {files' : FileTree} (h : Refreshes folder env answer files d)
    (hload : folder.load files' = .ok d) (h' : Refreshes folder env' answer files' d') : d' = d := by
  obtain ⟨c', -, s', hc', -, hs', rfl⟩ := h'
  obtain rfl : d = c' := Except.ok.inj (hload.symm.trans hc')
  obtain ⟨c, -, s, -, -, hs, rfl⟩ := h
  obtain rfl : s = s' := Except.ok.inj (hs.symm.trans hs')
  exact c.refresh_refresh s

end Refreshes

/-- What an update makes of the files, with any outcome but that of an emptied file. -/
def UpdateStep (folder : ContextFolder) (files files' : FileTree) : Prop :=
  ∃ env b e calls, Updates folder env b files e calls ∧ e.files = files' ∧
    (e.exit = 0 ∨ files' = files)

theorem encoding_of_step {files' : FileTree} (h : UpdateStep folder files files') :
    files'.encoding = files.encoding := by
  obtain ⟨env, b, e, calls, hupdates, rfl, -⟩ := h
  cases hupdates.outcome with
  | replaced _ _ _ _ hfiles => rw [hfiles]; rfl
  | unchanged _ hfiles => rw [hfiles]
  | emptied _ _ _ _ hfiles => rw [hfiles]; rfl

theorem settings_of_step (hfaithful : files.encoding.IsFaithful) {files' : FileTree}
    (h : UpdateStep folder files files') :
    (folder.load files').map Configuration.settings = (folder.load files).map Configuration.settings := by
  obtain ⟨env, b, e, calls, hupdates, rfl, hkept⟩ := h
  cases hupdates.outcome with
  | replaced _ hrefreshes hresolve hencode hfiles =>
    obtain ⟨-, hload⟩ := ContextFolder.load_put hresolve hfaithful hencode
    obtain ⟨c, -, s, hc, -, -, rfl⟩ := hrefreshes
    rw [hfiles, hload, hc]
    exact congrArg Except.ok (c.settings_refresh s)
  | unchanged _ hfiles => rw [hfiles]
  | emptied hexit => rw [hkept.resolve_left hexit]

theorem settings_of_steps (hfaithful : files.encoding.IsFaithful) {files' : FileTree}
    (h : Relation.ReflTransGen (UpdateStep folder) files files') :
    files'.encoding = files.encoding ∧
      (folder.load files').map Configuration.settings = (folder.load files).map Configuration.settings := by
  induction h with
  | refl => exact ⟨rfl, rfl⟩
  | tail _ hstep ih =>
    obtain ⟨hencoding, hsettings⟩ := ih
    refine ⟨(encoding_of_step hstep).trans hencoding, ?_⟩
    rw [settings_of_step (hencoding ▸ hfaithful) hstep, hsettings]

/-- After an update that succeeded, an update from the same answer leaves the files as they are. -/
theorem Updates.again (hfaithful : files.encoding.IsFaithful) {e e' : Execution} {calls calls' : List Call}
    {env' : Environment} {b' : Backend} (h : Updates folder env b files e calls) (hexit : e.exit = 0)
    (h' : Updates folder env' b' e.files e' calls') (hanswer : b'.answer = b.answer) :
    e'.files = e.files := by
  cases h.outcome with
  | unchanged hbad => exact absurd hexit hbad
  | emptied hbad => exact absurd hexit hbad
  | replaced _ hrefreshes hresolve hencode hfiles =>
    have houtcome := h'.outcome
    rw [hanswer, hfiles] at houtcome
    rw [hfiles]
    obtain ⟨-, hload⟩ := ContextFolder.load_put hresolve hfaithful hencode
    cases houtcome with
    | unchanged _ hsame => exact hsame
    | replaced _ hrefreshes' hresolve' hencode' hfiles' =>
      rw [FileTree.resolve_put_of_resolve hresolve] at hresolve'
      cases hresolve'
      rw [hrefreshes.again hload hrefreshes'] at hencode'
      obtain rfl := Except.ok.inj (hencode.symm.trans hencode')
      rw [hfiles', FileTree.put_put hresolve]
    | emptied _ hrefreshes' _ hencode' =>
      rw [hrefreshes.again hload hrefreshes'] at hencode'
      exact absurd ⟨_, hencode⟩ hencode'

/-- After an update without faults that left the files as they were, so does an update from the same answer. -/
theorem Updates.again_of_isCalm (hb : b.IsCalm) {e e' : Execution} {calls calls' : List Call}
    {b' : Backend} (h : Updates folder env b files e calls) (hsame : e.files = files)
    (h' : Updates folder env b' e.files e' calls') (hanswer : b'.answer = b.answer) :
    e'.files = e.files := by
  have houtcome := h'.outcome
  rw [hanswer, hsame] at houtcome
  cases houtcome with
  | unchanged _ hfiles => rw [hfiles, hsame]
  | replaced _ hrefreshes hresolve hencode hfiles =>
    rw [hfiles, h.eq_concluded hb hrefreshes]
    exact (concluded_of_encode hresolve hencode).2.symm
  | emptied _ hrefreshes hresolve hencode hfiles =>
    rw [hfiles, h.eq_concluded hb hrefreshes]
    exact (concluded_of_not_takes hresolve hencode).2.symm

/-- A tree with a file of a configuration and nothing else, seen in an encoding. -/
def configured (encoding : Encoding) (content : FileContent) : FileTree :=
  { FileTree.empty.put (Place.root.child Configuration.fileName) (.file content) with
    encoding := encoding }

theorem resolve_configured (encoding : Encoding) (content : FileContent) :
    (configured encoding content).resolve (ContextFolder.working "/").file =
      .ok ⟨Place.root.child Configuration.fileName, .file content⟩ := rfl

theorem read_configured {encoding : Encoding} {content : FileContent} {text : String}
    (h : encoding.decode content = .ok text) :
    (configured encoding content).read (ContextFolder.working "/").file = .ok text :=
  FileTree.read_eq_ok_iff.2 ⟨content, FileTree.content_of_resolve (resolve_configured ..), h⟩

/-- The file of a configuration in ASCII, whose address ends in a character beyond it. -/
def accented : FileContent :=
  .ofText "\x7b\"version\":\"2\",\"connectionUri\":\"postgres://localhost/caf\\u00e9\"\x7d"

end CommandLine.Execution

end CatalogSchema
