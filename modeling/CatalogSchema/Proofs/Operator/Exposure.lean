import CatalogSchema.Operator.Exposure
import CatalogSchema.Proofs.KeyedMap
import CatalogSchema.Proofs.Settlement

/-!
# Who holds an exposed name

For a type, an exposed name is held by the operator of the first mapping that gives the name to an operator
with a preferred infix variant for the type, else by the preferred function of that name
(`Exposure.find?_comparisons`). The order in which the variants were preferred does not matter
(`Exposure.ofPreferred_eq_of_find?`). `exposed_by_first_claim` says what follows for mappings that repeat
operators and names.
-/

namespace CatalogSchema

namespace Exposure

section

variable (preferred : OrderedMap (String × String) Variant)

/-- The infix variant for a type that a mapping exposes under a name. -/
def mapped? (left exposed : String) (m : OperatorMapping) : Option Variant :=
  if m.exposed = exposed then (preferred.find? (m.operator, left)).filter Variant.isInfix else none

/-- The function for a type that a name is the name of. -/
def function? (left exposed : String) : Option Variant :=
  (preferred.find? (exposed, left)).filter fun v => !v.isInfix

/-- The variant that holds an exposed name for a type. -/
def holder? (mappings : List OperatorMapping) (left exposed : String) : Option Variant :=
  (mappings.findSome? (mapped? preferred left exposed)).or (function? preferred left exposed)

/-- No two winners claim one name for one type. -/
theorem nodup_winners (mappings : List OperatorMapping) :
    ((ofPreferred preferred mappings).winners.map Claimant.key).Nodup := by
  have hmapped : ((Bid.winners (ofPreferred preferred mappings).mapped).map Claimant.key).Nodup :=
    Bid.nodup_winners_settle _
  exact Bid.nodup_held_winners_settle _ hmapped

end

section

variable {preferred : OrderedMap (String × String) Variant}
  (hkey : ∀ k v, preferred.find? k = some v → v.key = k) (cmp : Variant → Variant → Ordering)

include hkey

theorem mapped?_eq_some {m : OperatorMapping} {left exposed : String} {v : Variant}
    (h : mapped? preferred left exposed m = some v) :
    m.exposed = exposed ∧ v.isInfix = true ∧ v.name = m.operator ∧
      preferred.find? (m.operator, left) = some v := by
  unfold mapped? at h
  split at h
  · rename_i he
    obtain ⟨hfind, hi⟩ := Option.filter_eq_some_iff.1 h
    exact ⟨he, hi, congrArg Prod.fst (hkey _ v hfind), hfind⟩
  · cases h

theorem function?_eq_some {left exposed : String} {v : Variant}
    (h : function? preferred left exposed = some v) :
    v.isInfix = false ∧ v.name = exposed ∧ preferred.find? (exposed, left) = some v := by
  obtain ⟨hfind, hfunction⟩ := Option.filter_eq_some_iff.1 h
  exact ⟨by simpa using hfunction, congrArg Prod.fst (hkey _ v hfind), hfind⟩

/-- The sorted preferred variants, searched for the one with a key. -/
theorem find?_sortBy_values (p : Variant → Bool) (k : String × String) :
    (sortBy cmp preferred.values).find? (fun v => p v && v.key = k) =
      (preferred.find? k).filter p := by
  refine find?_eq_of_iff fun v => ?_
  rw [Option.filter_eq_some_iff, mem_sortBy, Bool.and_eq_true, decide_eq_true_eq]
  constructor
  · rintro ⟨hv, hp⟩
    exact ⟨OrderedMap.mem_values_of_find? hv, hp, hkey k v hv⟩
  · rintro ⟨hv, hp, rfl⟩
    obtain ⟨⟨l, v⟩, he, rfl⟩ := List.mem_map.1 hv
    have hl := OrderedMap.find?_eq_some_iff.2 he
    rw [hkey l v hl]
    exact ⟨hl, hp⟩

/-- The claim of one mapping to a name. -/
theorem find?_ofMapping (m : OperatorMapping) (left exposed : String) :
    (Claimant.ofMappings (sortBy cmp preferred.values) [m]).find? (fun c => c.key = (left, exposed)) =
      (mapped? preferred left exposed m).map (Claimant.mk exposed) := by
  rw [Claimant.ofMappings, List.flatMap_singleton, List.find?_map, List.find?_filter]
  by_cases he : m.exposed = exposed
  · subst he
    rw [mapped?, if_pos rfl, ← find?_sortBy_values hkey cmp]
    congr 2
    funext v
    simp [Claimant.key, Variant.key, and_assoc]
  · rw [mapped?, if_neg he, Option.map_none, Option.map_eq_none_iff, List.find?_eq_none]
    intro v _ hv
    simp [Claimant.key, he] at hv

theorem find?_ofMappings (mappings : List OperatorMapping) (left exposed : String) :
    (Claimant.ofMappings (sortBy cmp preferred.values) mappings).find?
        (fun c => c.key = (left, exposed)) =
      (mappings.findSome? (mapped? preferred left exposed)).map (Claimant.mk exposed) := by
  induction mappings with
  | nil => rfl
  | cons m mappings ih =>
    have hcons : Claimant.ofMappings (sortBy cmp preferred.values) (m :: mappings) =
        Claimant.ofMappings (sortBy cmp preferred.values) [m] ++
          Claimant.ofMappings (sortBy cmp preferred.values) mappings := by
      simp [Claimant.ofMappings]
    rw [hcons, List.find?_append, find?_ofMapping hkey, ih, List.findSome?_cons]
    cases mapped? preferred left exposed m <;> rfl

theorem find?_ofFunctions (left exposed : String) :
    (Claimant.ofFunctions (sortBy cmp preferred.values)).find? (fun c => c.key = (left, exposed)) =
      (function? preferred left exposed).map (Claimant.mk exposed) := by
  have hfunction : (sortBy cmp preferred.values).find?
      (fun v => !v.isInfix && v.key = (exposed, left)) = function? preferred left exposed :=
    find?_sortBy_values hkey cmp _ _
  have hclaim : (fun v : Variant => decide ((!v.isInfix) = true ∧
      ((fun c => decide (c.key = (left, exposed))) ∘ fun v => Claimant.mk v.name v) v = true)) =
      fun v => !v.isInfix && v.key = (exposed, left) := by
    funext v
    simp [Claimant.key, Variant.key, and_comm]
  rw [Claimant.ofFunctions, List.find?_map, List.find?_filter, hclaim, hfunction]
  -- a function is exposed by its own name
  refine Option.map_congr fun v hv => ?_
  obtain ⟨hfound, -⟩ := Option.filter_eq_some_iff.1 hv
  rw [show v.name = exposed from congrArg Prod.fst (hkey _ v hfound)]

/-- An exposed name goes to the first mapping that claims it, else to the function of that name. -/
theorem find?_winners (mappings : List OperatorMapping) (left exposed : String) :
    (ofPreferred preferred mappings).winners.find? (fun c => c.key = (left, exposed)) =
      (holder? preferred mappings left exposed).map (Claimant.mk exposed) := by
  let vs := sortBy (byTwo Variant.name Variant.left) preferred.values
  let mapped := Bid.winners (Bid.settle Claimant.key [] (Claimant.ofMappings vs mappings))
  have hmapped : mapped.find? (fun c => c.key = (left, exposed)) =
      (mappings.findSome? (mapped? preferred left exposed)).map (Claimant.mk exposed) := by
    rw [Bid.find?_winners_settle, if_neg (by simp), find?_ofMappings hkey]
  show (mapped ++ Bid.winners (Bid.settle Claimant.key mapped (Claimant.ofFunctions vs))).find? _ = _
  rw [List.find?_append, hmapped, holder?]
  cases hholder : mappings.findSome? (mapped? preferred left exposed) with
  | some v => rfl
  | none =>
    rw [hholder, Option.map_none, List.find?_eq_none] at hmapped
    have hfree : ¬ ∃ c ∈ mapped, c.key = (left, exposed) := fun ⟨c, hc, hk⟩ =>
      hmapped c hc (decide_eq_true hk)
    rw [Option.map_none, Option.none_or, Option.none_or, Bid.find?_winners_settle, if_neg hfree,
      find?_ofFunctions hkey]

theorem find?_comparisons (mappings : List OperatorMapping) (left exposed : String) :
    ((ofPreferred preferred mappings).comparisons.find? left).bind (·.find? exposed) =
      (holder? preferred mappings left exposed).map fun v => (Claimant.mk exposed v).function := by
  have hentries : (((ofPreferred preferred mappings).winners.map Claimant.entry).map
      fun e => (e.1, e.2.1)).Nodup := by
    rw [List.map_map]
    exact nodup_winners preferred mappings
  have hinner : ((ofPreferred preferred mappings).comparisons.find? left).bind (·.find? exposed) =
      ((OrderedMap.nest ((ofPreferred preferred mappings).winners.map Claimant.entry)).find? left).bind
        (·.find? exposed) := by
    rw [comparisons, OrderedMap.find?_sortByKey, OrderedMap.find?_mapValues, Option.bind_map]
    congr 1
    funext inner
    exact OrderedMap.find?_sortByKey inner exposed
  have hwinner : (ofPreferred preferred mappings).winners.find?
      ((fun e => decide ((e.1, e.2.1) = (left, exposed))) ∘ Claimant.entry) =
      (holder? preferred mappings left exposed).map (Claimant.mk exposed) :=
    find?_winners hkey mappings left exposed
  rw [hinner, OrderedMap.find?_find?_nest hentries, List.find?_map, hwinner, Option.map_map,
    Option.map_map]
  rfl

/-- Exposure depends on the lookups of the preferred variants, not on the order in which they were
chosen. -/
theorem ofPreferred_eq_of_find? {preferred' : OrderedMap (String × String) Variant}
    (h : ∀ k, preferred.find? k = preferred'.find? k) (mappings : List OperatorMapping) :
    ofPreferred preferred mappings = ofPreferred preferred' mappings := by
  have hsort : sortBy (byTwo Variant.name Variant.left) preferred.values =
      sortBy (byTwo Variant.name Variant.left) preferred'.values := by
    -- name and first type make up the key, so two preferred variants that compare equal are one
    refine sortBy_eq_of_perm ((OrderedMap.entries_perm_of_find? h).map Prod.snd) ?_
    intro v hv w hw hvw
    obtain ⟨⟨k, v⟩, hkv, rfl⟩ := List.mem_map.1 hv
    obtain ⟨⟨l, w⟩, hlw, rfl⟩ := List.mem_map.1 hw
    have hfv := OrderedMap.find?_eq_some_iff.2 hkv
    have hfw := OrderedMap.find?_eq_some_iff.2 hlw
    have hkeys : v.key = w.key := Prod.ext (byTwo_eq_eq.1 hvw).1 (byTwo_eq_eq.1 hvw).2
    rw [← hkey k v hfv, hkeys, hkey l w hfw] at hfv
    exact Option.some.inj (hfv.symm.trans hfw)
  unfold ofPreferred
  rw [hsort]

/-- A type has exposed functions just when some name is held for it. -/
theorem mem_keys_comparisons (mappings : List OperatorMapping) (left : String) :
    left ∈ (ofPreferred preferred mappings).comparisons.keys ↔
      ∃ exposed v, holder? preferred mappings left exposed = some v := by
  constructor
  · intro h
    obtain ⟨e, he, rfl⟩ := List.mem_map.1 h
    have hm := (OrderedMap.entries_sortByKey_perm _).mem_iff.1 he
    obtain ⟨inner, hinner, rfl⟩ := List.mem_map.1 hm
    obtain ⟨_, hclaim, hleft⟩ := List.mem_map.1 (OrderedMap.mem_keys_nest (List.mem_map_of_mem hinner))
    obtain ⟨c, hc, rfl⟩ := List.mem_map.1 hclaim
    have hheld : (ofPreferred preferred mappings).winners.find?
        (fun d => d.key = (c.variant.left, c.exposed)) = some c :=
      (find?_key_eq_some_iff (nodup_winners preferred mappings)).2 ⟨hc, rfl⟩
    rw [find?_winners hkey] at hheld
    obtain ⟨v, hv, -⟩ := Option.map_eq_some_iff.1 hheld
    exact ⟨c.exposed, v, hleft ▸ hv⟩
  · rintro ⟨exposed, v, hv⟩
    have hfound := find?_comparisons hkey mappings left exposed
    rw [hv, Option.map_some] at hfound
    obtain ⟨inner, hinner, -⟩ := Option.bind_eq_some_iff.1 hfound
    exact List.mem_map_of_mem (OrderedMap.find?_eq_some_iff.1 hinner)

end

/-- What is exposed is told by who claims a name first: for each type and name the infix operator of the first
mapping that gives it the name, else the function of the name, else nothing. So an operator without a mapping
is not exposed, one with several is exposed under each name that no earlier mapping claims for the type, a type
stands in the result just when something is exposed for it, and the order of the preferred variants does not
show. -/
theorem exposed_by_first_claim {preferred : OrderedMap (String × String) Variant}
    (hkeys : ∀ e ∈ preferred.entries, e.2.key = e.1) (mappings : List OperatorMapping) :
    let exposure := ofPreferred preferred mappings
    let found := fun left exposed => (exposure.comparisons.find? left).bind (·.find? exposed)
    (∀ left exposed, found left exposed =
      ((mappings.findSome? (mapped? preferred left exposed)).or (function? preferred left exposed)).map
        fun v => ⟨v.name, v.right, v.isInfix⟩) ∧
    (∀ k v, preferred.find? k = some v → v.isInfix = true →
      v.name ∉ mappings.map OperatorMapping.operator →
      ∀ left exposed f, found left exposed = some f → f.isInfix = true → f.operator ≠ v.name) ∧
    (∀ before m after, mappings = before ++ m :: after → ∀ left v,
      preferred.find? (m.operator, left) = some v → v.isInfix = true →
      (∀ m' ∈ before, mapped? preferred left m.exposed m' = none) →
      found left m.exposed = some ⟨m.operator, v.right, true⟩) ∧
    (∀ left, left ∈ exposure.comparisons.keys ↔ ∃ exposed f, found left exposed = some f) ∧
    ∀ preferred' : OrderedMap (String × String) Variant,
      preferred'.entries.Perm preferred.entries → ofPreferred preferred' mappings = exposure := by
  intro exposure found
  have hkey : ∀ k v, preferred.find? k = some v → v.key = k := fun k v h =>
    hkeys (k, v) (OrderedMap.find?_eq_some_iff.1 h)
  have hfound : ∀ left exposed, found left exposed =
      (holder? preferred mappings left exposed).map fun v => ⟨v.name, v.right, v.isInfix⟩ :=
    find?_comparisons hkey mappings
  refine ⟨hfound, ?_, ?_, ?_, ?_⟩
  · intro k v _ _ hunmapped left exposed f hf hinfix hname
    rw [hfound] at hf
    obtain ⟨u, hu, rfl⟩ := Option.map_eq_some_iff.1 hf
    rcases Option.or_eq_some_iff.1 hu with hu | ⟨-, hu⟩
    · obtain ⟨m, hm, hmapped⟩ := List.exists_of_findSome?_eq_some hu
      obtain ⟨-, -, hoperator, -⟩ := mapped?_eq_some hkey hmapped
      apply hunmapped
      rw [← hname, show u.name = m.operator from hoperator]
      exact List.mem_map_of_mem hm
    · obtain ⟨hfunction, -, -⟩ := function?_eq_some hkey hu
      rw [show u.isInfix = true from hinfix] at hfunction
      cases hfunction
  · intro before m after hsplit left v hv hinfix hbefore
    have hm : mapped? preferred left m.exposed m = some v := by
      rw [mapped?, if_pos rfl, hv]
      exact Option.filter_eq_some_iff.2 ⟨rfl, hinfix⟩
    have hfirst : mappings.findSome? (mapped? preferred left m.exposed) = some v :=
      List.findSome?_eq_some_iff.2 ⟨before, m, after, hsplit, hm, hbefore⟩
    obtain ⟨-, -, hname, -⟩ := mapped?_eq_some hkey hm
    rw [hfound, holder?, hfirst, Option.some_or, Option.map_some, hname, hinfix]
  · intro left
    rw [mem_keys_comparisons hkey]
    simp only [hfound, Option.map_eq_some_iff]
    constructor
    · rintro ⟨exposed, v, hv⟩
      exact ⟨exposed, _, v, hv, rfl⟩
    · rintro ⟨exposed, _, v, hv, -⟩
      exact ⟨exposed, v, hv⟩
  · intro preferred' hperm
    refine (ofPreferred_eq_of_find? hkey (fun k => ?_) mappings).symm
    refine Option.ext fun v => ?_
    rw [OrderedMap.find?_eq_some_iff, OrderedMap.find?_eq_some_iff, hperm.mem_iff]

/-- An operator under two names, of which another operator claims one later, an operator under the name of a
function, and one without a mapping. -/
theorem repeated_names_exposed :
    let preferred : OrderedMap (String × String) Variant :=
      ⟨[(("like", "text"), .declared "like" "text" "text" false), (("=", "int4"), .declared "=" "int4" "int4" true),
        (("<", "int4"), .declared "<" "int4" "int8" true), (("~~", "text"), .declared "~~" "text" "text" true),
        (("~", "text"), .declared "~" "text" "text" true)], by decide⟩
    let mappings : List OperatorMapping := [⟨"=", "_eq"⟩, ⟨"<", "_eq"⟩, ⟨"=", "_is"⟩, ⟨"~~", "like"⟩]
    let found := fun left exposed =>
      ((ofPreferred preferred mappings).comparisons.find? left).bind (·.find? exposed)
    (∀ e ∈ preferred.entries, e.2.key = e.1) ∧
      found "int4" "_eq" = some ⟨"=", "int4", true⟩ ∧ found "int4" "_is" = some ⟨"=", "int4", true⟩ ∧
      found "text" "like" = some ⟨"~~", "text", true⟩ ∧ found "text" "~" = none := by
  intro preferred mappings found
  have hkeys : ∀ e ∈ preferred.entries, e.2.key = e.1 := by decide
  obtain ⟨hheld, -, hseveral, -⟩ := exposed_by_first_claim hkeys mappings
  have his : found "int4" "_is" = some ⟨"=", "int4", true⟩ :=
    hseveral [⟨"=", "_eq"⟩, ⟨"<", "_eq"⟩] ⟨"=", "_is"⟩ [⟨"~~", "like"⟩] rfl "int4" _ rfl rfl (by decide)
  exact ⟨hkeys, hheld "int4" "_eq", his, hheld "text" "like", hheld "text" "~"⟩

end Exposure

end CatalogSchema
