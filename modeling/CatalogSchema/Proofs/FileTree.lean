import CatalogSchema.FileTree
import CatalogSchema.Proofs.KeyedMap

/-!
# Writing a file again

A pathname that leads to a file leads to a place that can be written (`place_of_resolve`). What changes is
what the file holds and nothing else: a pathname leads through the tree as before (`resolve_put`).
-/

namespace CatalogSchema

/-- The entry with another content, if it is the file in the place. -/
def Found.refill (place : Place) (content : FileContent) (f : Found) : Found :=
  match f.entry with
  | .folder => f
  | .file _ => if f.place = place then ⟨place, .file content⟩ else f

namespace FileTree

variable {t : FileTree} {place : Place} {old : FileContent}

theorem put_of_find? {e : FileEntry} (hroot : place ≠ .root) (h : t.find? place = some e) :
    t.put place e = t := by
  rw [find?, if_neg hroot] at h
  rw [put, OrderedMap.insert_of_find? h]

section Refill

variable (hroot : place ≠ .root) (hfile : t.find? place = some (.file old)) (new : FileContent)

include hroot hfile

/-- One step finds what it found before, with the new content. -/
theorem step_put (f : Found) (name : String) :
    (t.put place (.file new)).step (f.refill place new) name =
      (t.step f name).map (Found.refill place new) := by
  obtain ⟨p, _ | c⟩ := f
  · simp only [step, Found.refill]
    split
    · rfl
    · split
      · rfl
      · rw [find?_put hroot]
        by_cases hp : place = p.child name
        · subst hp
          simp [hfile, Found.refill, Except.map]
        · rw [if_neg hp]
          cases h : t.find? (p.child name) with
          | none => rfl
          | some e => cases e <;> simp [Found.refill, Except.map, Ne.symm hp]
  · by_cases hp : p = place <;> simp [step, Found.refill, hp, Except.map]

theorem foldlM_step_put (f : Found) (names : List String) :
    names.foldlM (t.put place (.file new)).step (f.refill place new) =
      (names.foldlM t.step f).map (Found.refill place new) := by
  induction names generalizing f with
  | nil => rfl
  | cons name names ih =>
    rw [List.foldlM_cons, List.foldlM_cons, step_put hroot hfile]
    cases t.step f name with
    | error problem => rfl
    | ok g => exact ih g

theorem resolve_put (p : Pathname) :
    (t.put place (.file new)).resolve p = (t.resolve p).map (Found.refill place new) := by
  have horigin : (t.put place (.file new)).origin p.start =
      (t.origin p.start).refill place new := by
    cases p.start <;> rfl
  rw [resolve, resolve, horigin, foldlM_step_put hroot hfile]
  cases checkText p.render <;> rfl

end Refill

theorem resolve_eq_ok {p : Pathname} {f : Found} (h : t.resolve p = .ok f) :
    checkText p.render = .ok () ∧ p.names.foldlM t.step (t.origin p.start) = .ok f := by
  unfold resolve at h
  cases hc : checkText p.render with
  | error problem => rw [hc] at h; cases h
  | ok u => rw [hc] at h; exact ⟨rfl, h⟩

theorem exists_resolve_of_content {p : Pathname} (h : t.content p = .ok old) :
    ∃ place, t.resolve p = .ok ⟨place, .file old⟩ := by
  unfold content lookup at h
  cases hr : t.resolve p with
  | error problem => rw [hr] at h; cases h
  | ok f =>
    obtain ⟨place, _ | c⟩ := f
    · rw [hr] at h; cases h
    · rw [hr] at h; cases h; exact ⟨place, rfl⟩

theorem content_of_resolve {p : Pathname} (h : t.resolve p = .ok ⟨place, .file old⟩) :
    t.content p = .ok old := by
  rw [content, lookup, h]
  rfl

theorem read_of_content {p : Pathname} (h : t.content p = .ok old) :
    t.read p = (t.encoding.decode old).mapError .coding := by
  rw [read, h]
  rfl

theorem read_eq_ok_iff {p : Pathname} {text : String} :
    t.read p = .ok text ↔ ∃ old, t.content p = .ok old ∧ t.encoding.decode old = .ok text := by
  cases h : t.content p with
  | error problem =>
    rw [read, h]
    exact ⟨fun h => (nomatch h), fun ⟨_, hc, _⟩ => (nomatch hc)⟩
  | ok old =>
    rw [read_of_content h]
    cases hd : t.encoding.decode old <;> simp [Except.mapError, hd]

/-- A step that leads to a file leads to a name in a folder. -/
theorem step_eq_file {f : Found} {name : String} (h : t.step f name = .ok ⟨place, .file old⟩) :
    place ≠ .root ∧ t.find? place = some (.file old) := by
  unfold step at h
  split at h
  · cases h
  · split at h
    · cases h
    · split at h
      · cases h
      · split at h
        · rename_i e hfind
          cases h
          exact ⟨Place.child_ne_root _ _, hfind⟩
        · cases h

/-- Where a pathname leads to a file, its last name is in a folder. -/
theorem resolveNew_of_resolve {p : Pathname} (h : t.resolve p = .ok ⟨place, .file old⟩) :
    t.resolveNew p = .ok (place, some (.file old)) ∧ place ≠ .root ∧
      t.find? place = some (.file old) := by
  obtain ⟨hcheck, hfold⟩ := resolve_eq_ok h
  rcases List.eq_nil_or_concat p.names with hnames | ⟨names, name, hnames⟩
  · -- the pathname without names leads to a folder
    rw [hnames] at hfold
    cases hstart : p.start <;> rw [hstart] at hfold <;> cases hfold
  · rw [hnames, List.concat_eq_append, List.foldlM_append] at hfold
    cases hfolder : names.foldlM t.step (t.origin p.start) with
    | error problem => rw [hfolder] at hfold; cases hfold
    | ok folder =>
      rw [hfolder] at hfold
      have hstep : t.step folder name = .ok ⟨place, .file old⟩ := by
        cases hs : t.step folder name with
        | error problem => simp [hs, bind, Except.bind] at hfold
        | ok f => simpa [hs, bind, Except.bind, pure, Except.pure] using hfold
      obtain ⟨hroot, hfind⟩ := step_eq_file hstep
      have habove : p.above.names = names := by simp [Pathname.above, hnames]
      have hlast : p.names.getLast? = some name := by simp [hnames]
      refine ⟨?_, hroot, hfind⟩
      simp [resolveNew, hcheck, habove, hfolder, hlast, hstep, bind, Except.bind]

theorem place_of_resolve {p : Pathname} (h : t.resolve p = .ok ⟨place, .file old⟩) :
    t.place p = .ok place := by
  rw [FileTree.place, (resolveNew_of_resolve h).1]
  rfl

/-- A pathname that leads to a file leads to it whatever it is made to hold. -/
theorem resolve_put_of_resolve {p : Pathname} (h : t.resolve p = .ok ⟨place, .file old⟩)
    (new : FileContent) : (t.put place (.file new)).resolve p = .ok ⟨place, .file new⟩ := by
  obtain ⟨-, hroot, hfind⟩ := resolveNew_of_resolve h
  rw [resolve_put hroot hfind, h]
  simp [Except.map, Found.refill]

/-- The same content again changes nothing. -/
theorem put_put {p : Pathname} (h : t.resolve p = .ok ⟨place, .file old⟩) (new : FileContent) :
    (t.put place (.file new)).put place (.file new) = t.put place (.file new) := by
  obtain ⟨-, hroot, -⟩ := resolveNew_of_resolve h
  exact put_of_find? hroot (by rw [find?_put hroot, if_pos rfl])

/-- A text that has an encoding is written. -/
theorem writeText_of_encode {p : Pathname} (h : t.place p = .ok place) {text : String}
    {new : FileContent} (hnew : t.encoding.encode text = .ok new) :
    t.writeText p text = (t.put place (.file new), none) := by
  simp only [writeText, h, hnew]

/-- A text that has none leaves an empty file. -/
theorem writeText_of_error {p : Pathname} (h : t.place p = .ok place) {text message : String}
    (hnone : t.encoding.encode text = .error message) :
    t.writeText p text = (t.put place (.file .empty), some (.coding message)) := by
  simp only [writeText, h, hnone]

end FileTree

end CatalogSchema
