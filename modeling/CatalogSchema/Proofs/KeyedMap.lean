import CatalogSchema.OrderedMap
import CatalogSchema.Proofs.StableSort
import Mathlib.Data.List.Find

/-!
# Laws of insertion-ordered maps

What a map holds that was written from a list of entries, beyond the lookup of one key. Where the keys of
the list are distinct the lookups do not depend on its order (`find?_ofList_of_perm`); an injective change
of the keys goes through the writing (`entries_ofList_map`); the part of a nested map under one key is
written from the entries with that key alone (`find?_nest`). Two maps with the same lookups hold the
same entries (`entries_perm_of_find?`).
-/

namespace CatalogSchema

universe u v w

/-! ## Members told by a test -/

/-- Where at most one member satisfies a test, it is the one that is found. -/
theorem find?_eq_of_iff {α : Type u} {p : α → Bool} {xs : List α} {found : Option α}
    (h : ∀ x, found = some x ↔ x ∈ xs ∧ p x) : xs.find? p = found := by
  cases found with
  | none =>
    refine List.find?_eq_none.2 fun x hx hp => ?_
    cases (h x).2 ⟨hx, hp⟩
  | some x =>
    obtain ⟨hx, hp⟩ := (h x).1 rfl
    obtain ⟨y, hy⟩ := Option.isSome_iff_exists.1 (List.find?_isSome.2 ⟨x, hx, hp⟩)
    rw [hy, (h y).2 ⟨List.mem_of_find?_eq_some hy, List.find?_some hy⟩]

theorem find?_key_eq_some_iff {α : Type u} {κ : Type v} [DecidableEq κ] {key : α → κ} {xs : List α}
    (h : (xs.map key).Nodup) {k : κ} {x : α} :
    xs.find? (fun x => key x = k) = some x ↔ x ∈ xs ∧ key x = k := by
  constructor
  · exact fun hx => ⟨List.mem_of_find?_eq_some hx, by simpa using List.find?_some hx⟩
  · rintro ⟨hx, hk⟩
    have hs : (xs.find? fun x => key x = k).isSome := by
      rw [List.find?_isSome]
      exact ⟨x, hx, decide_eq_true hk⟩
    obtain ⟨y, hy⟩ := Option.isSome_iff_exists.1 hs
    have hyk : key y = k := by simpa using List.find?_some hy
    rw [hy, List.inj_on_of_nodup_map h (List.mem_of_find?_eq_some hy) hx (hyk.trans hk.symm)]

/-- Where no two members have one key, a key belongs to one member or to none. -/
theorem map_filter_key_eq_singleton_iff {α β : Type u} {κ : Type v} [DecidableEq κ] {key : α → κ}
    {xs : List α} (h : (xs.map key).Nodup) {k : κ} {f : α → β} {b : β} :
    (xs.filter (key · = k)).map f = [b] ↔ ∃ x ∈ xs, key x = k ∧ f x = b := by
  constructor
  · intro hb
    obtain ⟨x, hx, hf⟩ := List.mem_map.1 (hb.symm ▸ List.mem_singleton_self b)
    obtain ⟨hm, hk⟩ := List.mem_filter.1 hx
    exact ⟨x, hm, of_decide_eq_true hk, hf⟩
  · rintro ⟨x, hm, rfl, rfl⟩
    have hxs : xs.Nodup := List.Nodup.of_map key h
    have hperm : (xs.filter (key · = key x)).Perm [x] := by
      refine (List.perm_ext_iff_of_nodup (hxs.filter _) (List.nodup_singleton x)).2 fun y => ?_
      rw [List.mem_filter, List.mem_singleton, decide_eq_true_iff]
      constructor
      · rintro ⟨hy, hyx⟩
        exact List.inj_on_of_nodup_map h hy hm hyx
      · rintro rfl
        exact ⟨hm, rfl⟩
    rw [List.perm_singleton.1 hperm, List.map_singleton]

/-- Where no two members have one key, the order of the members does not matter. -/
theorem find?_key_of_perm {α : Type u} {κ : Type v} [DecidableEq κ] {key : α → κ} {xs ys : List α}
    (h : xs.Perm ys) (hn : (ys.map key).Nodup) (k : κ) :
    xs.find? (fun x => key x = k) = ys.find? fun x => key x = k :=
  find?_eq_of_iff fun x => by rw [find?_key_eq_some_iff hn, h.mem_iff, decide_eq_true_eq]

/-- Lists that agree on some members agree on fewer. -/
theorem filter_eq_of_filter_eq {α : Type u} {p q : α → Bool} {xs ys : List α}
    (h : xs.filter p = ys.filter p) (hq : ∀ x, q x → p x) : xs.filter q = ys.filter q := by
  have hsub (zs : List α) : zs.filter q = (zs.filter p).filter q := by
    rw [List.filter_filter]
    refine List.filter_congr fun z _ => ?_
    cases hz : q z
    · rfl
    · rw [hq z hz]
      rfl
  rw [hsub, hsub ys, h]

theorem eraseDups_of_nodup {α : Type u} [DecidableEq α] {xs : List α} (h : xs.Nodup) :
    xs.eraseDups = xs := by
  induction xs with
  | nil => rfl
  | cons x xs ih =>
    obtain ⟨hx, hxs⟩ := List.nodup_cons.1 h
    have hrest : xs.filter (fun y => !y == x) = xs := by
      refine List.filter_eq_self.2 fun y hy => ?_
      simpa using fun hyx : y = x => hx (hyx ▸ hy)
    rw [List.eraseDups_cons, hrest, ih hxs]

theorem eraseDups_sublist {α : Type u} [DecidableEq α] (xs : List α) : xs.eraseDups.Sublist xs := by
  induction h : xs.length using Nat.strongRecOn generalizing xs with
  | ind n ih =>
    cases xs with
    | nil => exact .slnil
    | cons x xs =>
      have hrest : (xs.filter fun y => !y == x).length < n := by
        rw [← h]
        exact Nat.lt_succ_of_le (List.length_filter_le ..)
      rw [List.eraseDups_cons]
      exact ((ih _ hrest _ rfl).trans List.filter_sublist).cons_cons x

namespace OrderedMap

variable {κ : Type u} {ν : Type v}

theorem nodup_entries (m : OrderedMap κ ν) : m.entries.Nodup := List.Nodup.of_map Prod.fst m.nodup

variable [DecidableEq κ]

@[simp] theorem entries_insert (m : OrderedMap κ ν) (k : κ) (v : ν) :
    (m.insert k v).entries = put k v m.entries := rfl

theorem put_of_lookup {k : κ} {v : ν} {es : List (κ × ν)} (h : lookup k es = some v) : put k v es = es := by
  induction es with
  | nil => cases h
  | cons e es ih =>
    obtain ⟨l, w⟩ := e
    by_cases hl : l = k
    · subst hl
      rw [lookup, if_pos rfl] at h
      rw [put, if_pos rfl, Option.some.inj h]
    · rw [lookup, if_neg hl] at h
      rw [put, if_neg hl, ih h]

/-- Writing what a key holds changes nothing. -/
theorem insert_of_find? {m : OrderedMap κ ν} {k : κ} {v : ν} (h : m.find? k = some v) : m.insert k v = m :=
  ext (put_of_lookup h)

theorem isSome_find?_iff {m : OrderedMap κ ν} {k : κ} : (m.find? k).isSome ↔ k ∈ m.keys := by
  rw [Option.isSome_iff_ne_none, Ne, find?_eq_none_iff, not_not]

theorem mem_values_of_find? {m : OrderedMap κ ν} {k : κ} {v : ν} (h : m.find? k = some v) :
    v ∈ m.values := List.mem_map_of_mem (find?_eq_some_iff.1 h)

/-! ## Maps with the same lookups -/

/-- Maps with the same lookups hold the same entries. -/
theorem entries_perm_of_find? {m n : OrderedMap κ ν} (h : ∀ k, m.find? k = n.find? k) :
    m.entries.Perm n.entries := by
  refine (List.perm_ext_iff_of_nodup m.nodup_entries n.nodup_entries).2 fun e => ?_
  obtain ⟨k, v⟩ := e
  rw [← find?_eq_some_iff, ← find?_eq_some_iff, h]

theorem mem_keys_iff_of_find? {m n : OrderedMap κ ν} {k l : κ} (h : m.find? k = n.find? l) :
    k ∈ m.keys ↔ l ∈ n.keys := by
  rw [← not_iff_not, ← find?_eq_none_iff, ← find?_eq_none_iff, h]

/-! ## The first key of a value -/

omit [DecidableEq κ] in
theorem keyOf?_eq_some_iff [DecidableEq ν] {m : OrderedMap κ ν} {k : κ} {v : ν} :
    m.keyOf? v = some k ↔
      ∃ before after, m.entries = before ++ (k, v) :: after ∧ ∀ e ∈ before, e.2 ≠ v := by
  unfold keyOf?
  rw [Option.map_eq_some_iff]
  constructor
  · rintro ⟨⟨l, w⟩, he, rfl⟩
    obtain ⟨hv, before, after, hentries, hbefore⟩ := List.find?_eq_some_iff_append.1 he
    obtain rfl : w = v := of_decide_eq_true hv
    exact ⟨before, after, hentries, by simpa using hbefore⟩
  · rintro ⟨before, after, hentries, hbefore⟩
    refine ⟨(k, v), List.find?_eq_some_iff_append.2 ⟨decide_eq_true rfl, before, after, hentries, ?_⟩, rfl⟩
    simpa using hbefore

omit [DecidableEq κ] in
theorem keyOf?_eq_none_iff [DecidableEq ν] {m : OrderedMap κ ν} {v : ν} :
    m.keyOf? v = none ↔ v ∉ m.values := by
  rw [keyOf?, Option.map_eq_none_iff, List.find?_eq_none, values, List.mem_map, not_exists]
  simp only [decide_eq_true_eq, not_and]

/-! ## Maps written from a list -/

theorem mem_of_mem_entries_ofList {es : List (κ × ν)} {e : κ × ν} (h : e ∈ (ofList es).entries) :
    e ∈ es := by
  obtain ⟨k, v⟩ := e
  rw [← find?_eq_some_iff, find?_ofList, Option.map_eq_some_iff] at h
  obtain ⟨⟨k', v'⟩, hf, rfl⟩ := h
  have hk : k' = k := by simpa using List.find?_some hf
  rw [← hk]
  exact List.mem_reverse.1 (List.mem_of_find?_eq_some hf)

theorem mem_values_sortByKey_ofList [Ord κ] {es : List (κ × ν)} {v : ν}
    (h : v ∈ (ofList es).sortByKey.values) : ∃ e ∈ es, e.2 = v := by
  obtain ⟨e, he, rfl⟩ := List.mem_map.1 h
  exact ⟨e, mem_of_mem_entries_ofList ((entries_sortByKey_perm _).mem_iff.1 he), rfl⟩

/-- The last entry with a key is the one that stays. -/
theorem find?_ofList_eq_getLast? (es : List (κ × ν)) (k : κ) :
    (ofList es).find? k = (es.filter (·.1 = k)).getLast?.map Prod.snd := by
  rw [find?_ofList, ← List.head?_filter, List.filter_reverse, List.head?_reverse]

theorem find?_ofList_eq_some_iff {es : List (κ × ν)} (hn : (es.map Prod.fst).Nodup) {k : κ} {v : ν} :
    (ofList es).find? k = some v ↔ (k, v) ∈ es := by
  refine ⟨fun h => mem_of_mem_entries_ofList (find?_eq_some_iff.1 h), fun h => ?_⟩
  have hs : ((ofList es).find? k).isSome := by
    rw [find?_ofList, Option.isSome_map, List.find?_isSome]
    exact ⟨(k, v), List.mem_reverse.2 h, by simp⟩
  obtain ⟨v', hv⟩ := Option.isSome_iff_exists.1 hs
  have hm : (k, v') ∈ es := mem_of_mem_entries_ofList (find?_eq_some_iff.1 hv)
  have he : (k, v') = (k, v) := List.inj_on_of_nodup_map hn hm h rfl
  rw [hv, (Prod.mk.inj he).2]

theorem find?_ofList_of_perm {es fs : List (κ × ν)} (h : es.Perm fs) (hn : (es.map Prod.fst).Nodup)
    (k : κ) : (ofList es).find? k = (ofList fs).find? k := by
  refine Option.ext fun v => ?_
  rw [find?_ofList_eq_some_iff hn, find?_ofList_eq_some_iff ((h.map _).nodup_iff.1 hn), h.mem_iff]

/-- Entries that do not have the key may be left out. -/
theorem find?_ofList_filter {p : κ × ν → Bool} {es : List (κ × ν)} {k : κ}
    (h : ∀ e ∈ es, e.1 = k → p e) : (ofList (es.filter p)).find? k = (ofList es).find? k := by
  rw [find?_ofList, find?_ofList, ← List.filter_reverse, List.find?_filter]
  refine congrArg (Option.map Prod.snd) (List.find?_congr fun e he => ?_)
  by_cases hk : e.1 = k
  · simp [hk, h e (List.mem_reverse.1 he) hk]
  · simp [hk]

theorem mem_keys_ofList {es : List (κ × ν)} {k : κ} : k ∈ (ofList es).keys ↔ k ∈ es.map Prod.fst := by
  rw [← not_iff_not, ← find?_eq_none_iff, find?_ofList, Option.map_eq_none_iff, List.find?_eq_none,
    List.mem_map]
  constructor
  · rintro h ⟨e, he, rfl⟩
    exact h e (List.mem_reverse.2 he) (by simp)
  · intro h e he hk
    exact h ⟨e, List.mem_reverse.1 he, by simpa using hk⟩

/-- A map holds every entry that is written just when no two entries give a key different values. -/
theorem forall_mem_entries_ofList_iff {es : List (κ × ν)} :
    (∀ e ∈ es, e ∈ (ofList es).entries) ↔ ∀ d ∈ es, ∀ e ∈ es, d.1 = e.1 → d.2 = e.2 := by
  constructor
  · intro h d hd e he hk
    have hdv : (ofList es).find? d.1 = some d.2 := find?_eq_some_iff.2 (h d hd)
    have hev : (ofList es).find? e.1 = some e.2 := find?_eq_some_iff.2 (h e he)
    rw [hk, hev] at hdv
    exact (Option.some.inj hdv).symm
  · intro h e he
    have hkey : e.1 ∈ (ofList es).keys := mem_keys_ofList.2 (List.mem_map_of_mem he)
    obtain ⟨v, hv⟩ := Option.isSome_iff_exists.1 (isSome_find?_iff.2 hkey)
    have hm := find?_eq_some_iff.1 hv
    have hve : v = e.2 := h (e.1, v) (mem_of_mem_entries_ofList hm) e he rfl
    rwa [hve] at hm

/-- Steps that each write one key leave the keys in the order in which they are first written. -/
theorem keys_foldl {α : Type w} {step : OrderedMap κ ν → α → OrderedMap κ ν} {key : α → κ}
    (hstep : ∀ m x, (step m x).keys = if key x ∈ m.keys then m.keys else m.keys ++ [key x]) (xs : List α)
    (m : OrderedMap κ ν) : (xs.foldl step m).keys = (m.keys ++ xs.map key).eraseDups := by
  induction xs generalizing m with
  | nil =>
    rw [List.foldl_nil, List.map_nil, List.append_nil]
    exact (eraseDups_of_nodup m.nodup).symm
  | cons x xs ih =>
    rw [List.foldl_cons, ih, hstep, List.map_cons]
    split
    · rename_i hm
      have hheld : (key x :: xs.map key).removeAll m.keys = (xs.map key).removeAll m.keys :=
        List.filter_cons_of_neg (by simpa using hm)
      rw [List.eraseDups_append, List.eraseDups_append, hheld]
    · rw [List.append_assoc, List.singleton_append]

/-- The keys stand in the order in which they are first written. -/
theorem keys_ofList (es : List (κ × ν)) : (ofList es).keys = (es.map Prod.fst).eraseDups :=
  keys_foldl (fun m e => m.keys_insert e.1 e.2) es empty

theorem keys_zip {ks : List κ} {vs : List ν} (h : ks.length = vs.length) :
    (ofList (ks.zip vs)).keys = ks.eraseDups := by
  rw [keys_ofList, List.map_fst_zip h.le]

theorem put_of_notMem {k : κ} {es : List (κ × ν)} (h : k ∉ es.map Prod.fst) (v : ν) :
    put k v es = es ++ [(k, v)] := by
  induction es with
  | nil => rfl
  | cons e es ih =>
    rw [List.map_cons, List.mem_cons, not_or] at h
    rw [put, if_neg (Ne.symm h.1), ih h.2, List.cons_append]

theorem entries_foldl_insert {es : List (κ × ν)} {m : OrderedMap κ ν}
    (hn : ((m.entries ++ es).map Prod.fst).Nodup) :
    (es.foldl (fun m e => m.insert e.1 e.2) m).entries = m.entries ++ es := by
  induction es generalizing m with
  | nil => simp
  | cons e es ih =>
    have hfresh : e.1 ∉ m.entries.map Prod.fst := by
      rw [List.map_append, List.nodup_append] at hn
      exact fun hm => hn.2.2 _ hm _ (by simp) rfl
    have hput : (m.insert e.1 e.2).entries = m.entries ++ [e] := put_of_notMem hfresh e.2
    rw [List.foldl_cons, ih (by rwa [hput, List.append_assoc]), hput, List.append_assoc]
    rfl

theorem filter_put {p : κ → Bool} (k : κ) (v : ν) (es : List (κ × ν)) :
    (put k v es).filter (fun e => p e.1) =
      if p k then put k v (es.filter fun e => p e.1) else es.filter fun e => p e.1 := by
  induction es with
  | nil => cases hp : p k <;> simp [put, hp]
  | cons e es ih =>
    obtain ⟨l, w⟩ := e
    by_cases hl : l = k
    · subst hl
      cases hp : p l <;> simp [put, hp]
    · rw [put, if_neg hl]
      cases hp : p l <;> cases hk : p k <;> simp [put, hp, hk, hl, ih]

theorem filter_entries_foldl_insert {p : κ → Bool} (es : List (κ × ν)) {m m' : OrderedMap κ ν}
    (h : m'.entries = m.entries.filter fun e => p e.1) :
    ((es.filter fun e => p e.1).foldl (fun m e => m.insert e.1 e.2) m').entries =
      (es.foldl (fun m e => m.insert e.1 e.2) m).entries.filter fun e => p e.1 := by
  induction es generalizing m m' with
  | nil => exact h
  | cons e es ih =>
    rw [List.filter_cons]
    split
    · rename_i hp
      refine ih ?_
      rw [entries_insert, entries_insert, filter_put, if_pos hp, h]
    · rename_i hp
      refine ih ?_
      rw [entries_insert, filter_put, if_neg hp, h]

/-- Entries whose keys fail a test may be left out before writing or after it. -/
theorem filter_entries_ofList (p : κ → Bool) (es : List (κ × ν)) :
    (ofList es).entries.filter (fun e => p e.1) = (ofList (es.filter fun e => p e.1)).entries :=
  (filter_entries_foldl_insert es rfl).symm

/-- A map is written again from its own entries. -/
theorem ofList_entries (m : OrderedMap κ ν) : ofList m.entries = m :=
  ext (entries_foldl_insert m.nodup)

theorem find?_indexBy_eq_some_iff {key : ν → κ} {rows : List ν} (hn : (rows.map key).Nodup) {k : κ}
    {r : ν} : (indexBy key rows).find? k = some r ↔ r ∈ rows ∧ key r = k := by
  have hn' : ((rows.map fun r => (key r, r)).map Prod.fst).Nodup := by
    simpa [List.map_map, Function.comp_def] using hn
  rw [indexBy, find?_ofList_eq_some_iff hn', List.mem_map]
  constructor
  · rintro ⟨r', hr, he⟩
    obtain ⟨rfl, rfl⟩ := Prod.mk.inj he
    exact ⟨hr, rfl⟩
  · rintro ⟨hr, rfl⟩
    exact ⟨r, hr, rfl⟩

/-- Of the rows with a key the last one stays. -/
theorem find?_indexBy_eq_getLast? (key : ν → κ) (rows : List ν) (k : κ) :
    (indexBy key rows).find? k = (rows.filter (key · = k)).getLast? := by
  rw [find?_indexBy, ← List.head?_filter, List.filter_reverse, List.head?_reverse]

theorem find?_indexBy_of_perm {key : ν → κ} {rows rows' : List ν} (h : rows.Perm rows')
    (hn : (rows.map key).Nodup) (k : κ) : (indexBy key rows).find? k = (indexBy key rows').find? k := by
  refine Option.ext fun r => ?_
  rw [find?_indexBy_eq_some_iff hn, find?_indexBy_eq_some_iff ((h.map _).nodup_iff.1 hn), h.mem_iff]

omit [DecidableEq κ] in
/-- Entries made of the values of a map, each under the key of its value or left out. -/
theorem sublist_keys_filterMap {μ : Type w} {g : ν → Option (κ × μ)} {es : List (κ × ν)}
    (hg : ∀ e ∈ es, ∀ e' ∈ g e.2, e'.1 = e.1) :
    (((es.map Prod.snd).filterMap g).map Prod.fst).Sublist (es.map Prod.fst) := by
  induction es with
  | nil => exact .slnil
  | cons e es ih =>
    have ih := ih fun e he => hg e (List.mem_cons_of_mem _ he)
    rw [List.map_cons, List.map_cons]
    cases h : g e.2 with
    | none =>
      rw [List.filterMap_cons_none h]
      exact ih.cons e.1
    | some e' =>
      rw [List.filterMap_cons_some h, List.map_cons, hg e List.mem_cons_self e' h]
      exact ih.cons_cons e.1

theorem find?_ofList_filterMap_values {μ : Type w} {m : OrderedMap κ ν} {g : ν → Option (κ × μ)}
    (hg : ∀ e ∈ m.entries, ∀ e' ∈ g e.2, e'.1 = e.1) (k : κ) :
    (ofList (m.values.filterMap g)).find? k = (m.find? k).bind fun v => (g v).map Prod.snd := by
  have hn : ((m.values.filterMap g).map Prod.fst).Nodup :=
    (sublist_keys_filterMap hg).nodup m.nodup
  refine Option.ext fun x => ?_
  rw [find?_ofList_eq_some_iff hn, List.mem_filterMap, Option.bind_eq_some_iff]
  constructor
  · rintro ⟨v, hv, hx⟩
    obtain ⟨e, he, rfl⟩ := List.mem_map.1 hv
    have hk : k = e.1 := hg e he (k, x) hx
    refine ⟨e.2, find?_eq_some_iff.2 (hk ▸ he), ?_⟩
    rw [hx]
    rfl
  · rintro ⟨v, hv, hx⟩
    obtain ⟨e', he', rfl⟩ := Option.map_eq_some_iff.1 hx
    have hm : (k, v) ∈ m.entries := find?_eq_some_iff.1 hv
    have hk : e'.1 = k := hg _ hm e' he'
    exact ⟨v, List.mem_map.2 ⟨_, hm, rfl⟩, hk ▸ he'⟩

/-- In an index every row stands under its own key. -/
theorem key_of_mem_indexBy {key : ν → κ} {rows : List ν} {e : κ × ν}
    (h : e ∈ (indexBy key rows).entries) : key e.2 = e.1 := by
  obtain ⟨r, -, rfl⟩ := List.mem_map.1 (mem_of_mem_entries_ofList h)
  rfl

/-! ## Nested maps -/

section Nest

variable {ι : Type v} {μ : Type w} [DecidableEq ι]

/-- What a nested map holds under a key, empty when the key is absent. -/
theorem find?_foldl_nest (es : List (κ × ι × μ)) (m : OrderedMap κ (OrderedMap ι μ)) (k : κ) :
    ((es.foldl (fun m e => m.alter e.1 fun inner => (inner.getD empty).insert e.2.1 e.2.2) m).find?
      k).getD empty =
      ((es.filter (·.1 = k)).map Prod.snd).foldl (fun m e => m.insert e.1 e.2)
        ((m.find? k).getD empty) := by
  induction es generalizing m with
  | nil => rfl
  | cons e es ih =>
    rw [List.foldl_cons, ih, find?_alter]
    by_cases h : e.1 = k <;> simp [h]

/-- The part under a key is written from the entries with that key. -/
theorem find?_nest (es : List (κ × ι × μ)) (k : κ) :
    ((nest es).find? k).getD empty = ofList ((es.filter (·.1 = k)).map Prod.snd) := by
  exact find?_foldl_nest es empty k

/-- Of members written under two keys the last one with both of them stays. -/
theorem find?_nest_map {α : Type u} (outer : α → κ) (inner : α → ι) (value : α → μ) (xs : List α) (k : κ)
    (i : ι) :
    (((nest (xs.map fun x => (outer x, inner x, value x))).find? k).getD empty).find? i =
      (xs.filter fun x => outer x = k ∧ inner x = i).getLast?.map value := by
  rw [find?_nest, find?_ofList_eq_getLast?]
  simp only [List.filter_map, List.filter_filter, List.getLast?_map, Option.map_map, Function.comp_def,
    Bool.decide_and, Bool.and_comm]

/-- The keys of a nested map are those of its entries, in the order in which they are first written. -/
theorem keys_nest (es : List (κ × ι × μ)) : (nest es).keys = (es.map Prod.fst).eraseDups :=
  keys_foldl (fun m e => m.keys_insert e.1 _) es empty

theorem mem_keys_nest {es : List (κ × ι × μ)} {k : κ} (h : k ∈ (nest es).keys) : k ∈ es.map Prod.fst := by
  rwa [keys_nest, List.mem_eraseDups] at h

/-- What stands in a nested map was written into it. -/
theorem mem_of_mem_nest {es : List (κ × ι × μ)} {k : κ} {inner : OrderedMap ι μ} {e : ι × μ}
    (hk : (k, inner) ∈ (nest es).entries) (he : e ∈ inner.entries) : (k, e) ∈ es := by
  have hfind := find?_nest es k
  rw [find?_eq_some_iff.2 hk, Option.getD_some] at hfind
  rw [hfind] at he
  obtain ⟨⟨k', e'⟩, hm, rfl⟩ := List.mem_map.1 (mem_of_mem_entries_ofList he)
  obtain ⟨hes, hk'⟩ := List.mem_filter.1 hm
  rwa [← of_decide_eq_true hk']

/-- What is true of all entries of a nested map is true of its keys and of what it holds. -/
theorem forall_of_mem_nest {P : κ → Prop} {Q : μ → Prop} {es : List (κ × ι × μ)}
    (hes : ∀ x ∈ es, P x.1 ∧ Q x.2.2) {e : κ × OrderedMap ι μ} (he : e ∈ (nest es).entries) :
    P e.1 ∧ ∀ v ∈ e.2.values, Q v := by
  refine ⟨?_, fun v hv => ?_⟩
  · obtain ⟨x, hx, hkey⟩ := List.mem_map.1 (mem_keys_nest (List.mem_map_of_mem he))
    rw [← hkey]
    exact (hes x hx).1
  · obtain ⟨named, hnamed, rfl⟩ := List.mem_map.1 hv
    exact (hes _ (mem_of_mem_nest he hnamed)).2

/-- What a nested map holds under two keys that no two entries share. -/
theorem find?_find?_nest {es : List (κ × ι × μ)} (h : (es.map fun e => (e.1, e.2.1)).Nodup) (k : κ)
    (i : ι) :
    ((nest es).find? k).bind (·.find? i) =
      (es.find? fun e => (e.1, e.2.1) = (k, i)).map fun e => e.2.2 := by
  have hin : ((nest es).find? k).bind (·.find? i) = (((nest es).find? k).getD empty).find? i := by
    cases (nest es).find? k <;> rfl
  rw [hin, find?_nest, find?_ofList, ← find?_key_of_perm es.reverse_perm h, ← List.map_reverse,
    ← List.filter_reverse, List.find?_map, List.find?_filter, Option.map_map]
  simp [Function.comp_def, Prod.ext_iff]

end Nest

/-! ## Changed keys -/

section Map

variable {κ' : Type u} {ν' : Type v} [DecidableEq κ']

theorem map_put {f : κ → κ'} (hf : Function.Injective f) (g : ν → ν') (k : κ) (v : ν)
    (es : List (κ × ν)) :
    (put k v es).map (Prod.map f g) = put (f k) (g v) (es.map (Prod.map f g)) := by
  induction es with
  | nil => rfl
  | cons e es ih =>
    obtain ⟨k', v'⟩ := e
    by_cases h : k' = k
    · simp [put, h]
    · have h' : ¬ f k' = f k := fun he => h (hf he)
      simp [put, h, h', ih]

theorem entries_foldl_insert_map {f : κ → κ'} (hf : Function.Injective f) (g : ν → ν')
    (es : List (κ × ν)) {m : OrderedMap κ ν} {m' : OrderedMap κ' ν'}
    (h : m'.entries = m.entries.map (Prod.map f g)) :
    ((es.map (Prod.map f g)).foldl (fun m e => m.insert e.1 e.2) m').entries =
      (es.foldl (fun m e => m.insert e.1 e.2) m).entries.map (Prod.map f g) := by
  induction es generalizing m m' with
  | nil => exact h
  | cons e es ih =>
    refine ih ?_
    rw [entries_insert, entries_insert, map_put hf, h]
    rfl

/-- Writing entries with their keys changed by an injective function changes the keys of the map. -/
theorem entries_ofList_map {f : κ → κ'} (hf : Function.Injective f) (g : ν → ν') (es : List (κ × ν)) :
    (ofList (es.map (Prod.map f g))).entries = (ofList es).entries.map (Prod.map f g) :=
  entries_foldl_insert_map hf g es rfl

theorem find?_ofList_map {f : κ → κ'} (hf : Function.Injective f) (g : ν → ν') (es : List (κ × ν))
    (k : κ) : (ofList (es.map (Prod.map f g))).find? (f k) = ((ofList es).find? k).map g := by
  rw [find?_ofList, find?_ofList, ← List.map_reverse, List.find?_map, Option.map_map, Option.map_map]
  have hp : ((fun e => decide (e.1 = f k)) ∘ Prod.map f g) = fun e : κ × ν => decide (e.1 = k) := by
    funext e
    simp [hf.eq_iff]
  rw [hp]
  rfl

/-- An index over changed rows, looked up at a changed key. -/
theorem find?_indexBy_map {f : κ → κ'} (hf : Function.Injective f) (g : ν → ν') (key : ν → κ)
    (key' : ν' → κ') (hk : ∀ r, key' (g r) = f (key r)) (rows : List ν) (k : κ) :
    (indexBy key' (rows.map g)).find? (f k) = ((indexBy key rows).find? k).map g := by
  have hr : ((rows.map g).map fun r => (key' r, r)) =
      (rows.map fun r => (key r, r)).map (Prod.map f g) := by
    simp [List.map_map, Function.comp_def, hk]
  rw [indexBy, hr, find?_ofList_map hf, indexBy]

end Map

end OrderedMap

end CatalogSchema
