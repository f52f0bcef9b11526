import CatalogSchema.Order

/-!
# Insertion-ordered maps

A map is a list of entries with distinct keys. Writing a key that is present replaces its value in
place; writing a new one appends it. Main statements: `find?_insert`, `keys_insert`, `find?_ofList` and
`find?_groupBy`, which say what a map holds that was built from rows, and `entries_sortByKey_perm`,
which says that sorting by key only moves entries.
-/

namespace CatalogSchema

universe u v w

/-- Entries with distinct keys, in the order in which the keys were first written. -/
structure OrderedMap (κ : Type u) (ν : Type v) where
  entries : List (κ × ν)
  nodup : (entries.map Prod.fst).Nodup

namespace OrderedMap

variable {κ : Type u} {ν : Type v} {μ : Type w}

@[ext] theorem ext {m n : OrderedMap κ ν} (h : m.entries = n.entries) : m = n := by
  cases m; cases n; cases h; rfl

instance [DecidableEq κ] [DecidableEq ν] : DecidableEq (OrderedMap κ ν) := fun m n =>
  decidable_of_iff (m.entries = n.entries) ⟨ext, fun h => h ▸ rfl⟩

instance [Repr κ] [Repr ν] : Repr (OrderedMap κ ν) := ⟨fun m => reprPrec m.entries⟩

def empty : OrderedMap κ ν := ⟨[], .nil⟩

instance : Inhabited (OrderedMap κ ν) := ⟨empty⟩

def keys (m : OrderedMap κ ν) : List κ := m.entries.map Prod.fst

def values (m : OrderedMap κ ν) : List ν := m.entries.map Prod.snd

def size (m : OrderedMap κ ν) : Nat := m.entries.length

/-- The value of the first entry with the key. -/
def lookup [DecidableEq κ] (k : κ) : List (κ × ν) → Option ν
  | [] => none
  | (k', v) :: rest => if k' = k then some v else lookup k rest

def find? [DecidableEq κ] (m : OrderedMap κ ν) (k : κ) : Option ν := lookup k m.entries

/-- Replace the value of a key in place, or append the entry. -/
def put [DecidableEq κ] (k : κ) (v : ν) : List (κ × ν) → List (κ × ν)
  | [] => [(k, v)]
  | (k', v') :: rest => if k' = k then (k, v) :: rest else (k', v') :: put k v rest

section Entries

variable [DecidableEq κ]

theorem map_fst_put (k : κ) (v : ν) (es : List (κ × ν)) :
    (put k v es).map Prod.fst =
      if k ∈ es.map Prod.fst then es.map Prod.fst else es.map Prod.fst ++ [k] := by
  induction es with
  | nil => simp [put]
  | cons e es ih =>
    obtain ⟨k', v'⟩ := e
    by_cases h : k' = k
    · simp [put, h]
    · have h' : ¬ k = k' := fun e => h e.symm
      by_cases hm : k ∈ es.map Prod.fst <;> simp_all [put]

theorem nodup_put (k : κ) (v : ν) {es : List (κ × ν)} (h : (es.map Prod.fst).Nodup) :
    ((put k v es).map Prod.fst).Nodup := by
  rw [map_fst_put]
  split
  · exact h
  · rename_i hk
    exact List.nodup_append.2 ⟨h, by simp, by
      intro a ha b hb hab
      rw [List.mem_singleton] at hb
      exact hk (hb ▸ hab ▸ ha)⟩

theorem lookup_put (k : κ) (v : ν) (k' : κ) (es : List (κ × ν)) :
    lookup k' (put k v es) = if k = k' then some v else lookup k' es := by
  induction es with
  | nil => simp [put, lookup]
  | cons e es ih =>
    obtain ⟨a, b⟩ := e
    by_cases h : a = k
    · subst h
      by_cases h' : a = k' <;> simp [put, lookup, h']
    · by_cases h' : k = k'
      · subst h'
        simp [put, lookup, h, ih]
      · by_cases h'' : a = k'
        · subst h''
          simp [put, lookup, h, h']
        · simp [put, lookup, h, ih, h', h'']

theorem lookup_eq_some_iff {es : List (κ × ν)} (h : (es.map Prod.fst).Nodup) {k : κ} {v : ν} :
    lookup k es = some v ↔ (k, v) ∈ es := by
  induction es with
  | nil => simp [lookup]
  | cons e es ih =>
    obtain ⟨a, b⟩ := e
    rw [List.map_cons, List.nodup_cons] at h
    by_cases hk : a = k
    · subst hk
      have : (a, v) ∉ es := fun hm => h.1 (List.mem_map.2 ⟨_, hm, rfl⟩)
      simp [lookup, this, eq_comm]
    · have hk' : ¬ k = a := fun e => hk e.symm
      simp [lookup, hk, hk', ih h.2]

end Entries

section Operations

variable [DecidableEq κ]

def insert (m : OrderedMap κ ν) (k : κ) (v : ν) : OrderedMap κ ν :=
  ⟨put k v m.entries, nodup_put k v m.nodup⟩

/-- Write the entries one after the other. -/
def ofList (es : List (κ × ν)) : OrderedMap κ ν :=
  es.foldl (fun m e => m.insert e.1 e.2) empty

/-- Rows by a key; the last row with a key counts. -/
def indexBy (key : ν → κ) (rows : List ν) : OrderedMap κ ν :=
  ofList (rows.map fun r => (key r, r))

/-- Change the value under a key, which is `none` when absent. -/
def alter (m : OrderedMap κ ν) (k : κ) (f : Option ν → ν) : OrderedMap κ ν :=
  m.insert k (f (m.find? k))

/-- Rows by a key, each group in the order of the rows. -/
def groupBy (key : ν → κ) (rows : List ν) : OrderedMap κ (List ν) :=
  rows.foldl (fun m r => m.alter (key r) fun g => g.getD [] ++ [r]) empty

/-- Entries by a key and, within it, by a second one; writing both keys again replaces the value. -/
def nest {ι : Type v} [DecidableEq ι] (es : List (κ × ι × μ)) : OrderedMap κ (OrderedMap ι μ) :=
  es.foldl (fun m e => m.alter e.1 fun inner => (inner.getD empty).insert e.2.1 e.2.2) empty

theorem find?_insert (m : OrderedMap κ ν) (k k' : κ) (v : ν) :
    (m.insert k v).find? k' = if k = k' then some v else m.find? k' :=
  lookup_put k v k' m.entries

theorem keys_insert (m : OrderedMap κ ν) (k : κ) (v : ν) :
    (m.insert k v).keys = if k ∈ m.keys then m.keys else m.keys ++ [k] :=
  map_fst_put k v m.entries

theorem find?_eq_some_iff {m : OrderedMap κ ν} {k : κ} {v : ν} :
    m.find? k = some v ↔ (k, v) ∈ m.entries := lookup_eq_some_iff m.nodup

theorem find?_eq_none_iff {m : OrderedMap κ ν} {k : κ} : m.find? k = none ↔ k ∉ m.keys := by
  rw [Option.eq_none_iff_forall_ne_some]
  simp only [ne_eq, find?_eq_some_iff, keys, List.mem_map, not_exists, not_and]
  exact ⟨fun h e he hk => h e.2 (hk ▸ he), fun h v hv => h (k, v) hv rfl⟩

@[simp] theorem find?_empty (k : κ) : (empty : OrderedMap κ ν).find? k = none := rfl

theorem find?_foldl_insert (es : List (κ × ν)) (m : OrderedMap κ ν) (k : κ) :
    (es.foldl (fun m e => m.insert e.1 e.2) m).find? k =
      ((es.reverse.find? fun e => e.1 = k).map Prod.snd).or (m.find? k) := by
  induction es generalizing m with
  | nil => simp
  | cons e es ih =>
    rw [List.foldl_cons, ih, find?_insert, List.reverse_cons, List.find?_append]
    cases es.reverse.find? fun e => e.1 = k <;> by_cases h : e.1 = k <;> simp [h]

/-- Of entries with one key the last counts. -/
theorem find?_ofList (es : List (κ × ν)) (k : κ) :
    (ofList es).find? k = (es.reverse.find? fun e => e.1 = k).map Prod.snd := by
  simp [ofList, find?_foldl_insert]

/-- Of rows with one key the last counts. -/
theorem find?_indexBy (key : ν → κ) (rows : List ν) (k : κ) :
    (indexBy key rows).find? k = rows.reverse.find? fun r => key r = k := by
  rw [indexBy, find?_ofList, ← List.map_reverse, List.find?_map, Option.map_map]
  exact Option.map_id' ..

theorem find?_alter (m : OrderedMap κ ν) (k k' : κ) (f : Option ν → ν) :
    (m.alter k f).find? k' = if k = k' then some (f (m.find? k')) else m.find? k' := by
  rw [alter, find?_insert]
  split
  · rename_i h
    rw [h]
  · rfl

theorem find?_foldl_group (key : ν → κ) (rows : List ν) (m : OrderedMap κ (List ν)) (k : κ) :
    ((rows.foldl (fun m r => m.alter (key r) fun g => g.getD [] ++ [r]) m).find? k).getD [] =
      (m.find? k).getD [] ++ rows.filter fun r => key r = k := by
  induction rows generalizing m with
  | nil => simp
  | cons r rows ih =>
    rw [List.foldl_cons, ih, find?_alter]
    by_cases h : key r = k <;> simp [h]

/-- The group of a key holds just the rows with that key, in their order. -/
theorem find?_groupBy (key : ν → κ) (rows : List ν) (k : κ) :
    ((groupBy key rows).find? k).getD [] = rows.filter fun r => key r = k := by
  simp [groupBy, find?_foldl_group]

end Operations

def mapValues (f : ν → μ) (m : OrderedMap κ ν) : OrderedMap κ μ :=
  ⟨m.entries.map fun e => (e.1, f e.2), by simpa [List.map_map, Function.comp_def] using m.nodup⟩

theorem lookup_map_snd [DecidableEq κ] (f : ν → μ) (es : List (κ × ν)) (k : κ) :
    lookup k (es.map fun e => (e.1, f e.2)) = (lookup k es).map f := by
  induction es with
  | nil => rfl
  | cons e es ih => by_cases h : e.1 = k <;> simp [lookup, h, ih]

theorem find?_mapValues [DecidableEq κ] (f : ν → μ) (m : OrderedMap κ ν) (k : κ) :
    (m.mapValues f).find? k = (m.find? k).map f := lookup_map_snd f m.entries k

/-- The entries in ascending order of their keys. -/
def sortByKey [Ord κ] (m : OrderedMap κ ν) : OrderedMap κ ν :=
  ⟨sortOn Prod.fst m.entries, ((perm_sortBy _ _).map _).nodup_iff.2 m.nodup⟩

theorem entries_sortByKey_perm [Ord κ] (m : OrderedMap κ ν) :
    m.sortByKey.entries.Perm m.entries := perm_sortBy _ _

theorem find?_sortByKey [DecidableEq κ] [Ord κ] (m : OrderedMap κ ν) (k : κ) :
    m.sortByKey.find? k = m.find? k :=
  Option.ext fun v => by
    rw [find?_eq_some_iff, find?_eq_some_iff, m.entries_sortByKey_perm.mem_iff]

/-- The first key that holds the value. -/
def keyOf? [DecidableEq ν] (m : OrderedMap κ ν) (v : ν) : Option κ :=
  (m.entries.find? fun e => e.2 = v).map Prod.fst

end OrderedMap

end CatalogSchema
