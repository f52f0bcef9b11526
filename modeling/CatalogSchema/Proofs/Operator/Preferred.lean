import CatalogSchema.Operator.Preference
import CatalogSchema.Proofs.Operator.Widening
import CatalogSchema.Proofs.KeyedMap

/-!
# The preferred variant

`select` keeps, for each operator and first argument type, a variant of least rank
(`isPreferred_of_find?_select`), and none only where there is none (`find?_select_eq_none`). Among the
variants that one round of casts reaches, rank and key determine the variant (`Grown.eq_of_rank`), so
what is kept is the one that is preferred to all others (`RankedApart.find?_select_eq_some_iff`), whatever
the order in which the variants come (`RankedApart.find?_select_congr`).
-/

namespace CatalogSchema

/-! ## Ranks -/

namespace Rank

instance : Std.TransCmp Rank.compare :=
  inferInstanceAs (Std.TransCmp (compareLex (byTwo mixed cast) (compareLex (byTwo estranged rightCast)
    (compareLex (byTwo right isFunction) (byTwo declaredLeft declaredRight)))))

theorem compare_eq_eq {a b : Rank} : a.compare b = .eq ↔ a = b := by
  rw [Rank.compare, compareLex_eq_eq, compareLex_eq_eq, compareLex_eq_eq, byTwo_eq_eq, byTwo_eq_eq,
    byTwo_eq_eq, byTwo_eq_eq]
  constructor
  · intro h
    obtain ⟨⟨h1, h2⟩, ⟨h3, h4⟩, ⟨h5, h6⟩, h7, h8⟩ := h
    cases a
    cases b
    simp_all
  · rintro rfl
    exact ⟨⟨rfl, rfl⟩, ⟨rfl, rfl⟩, ⟨rfl, rfl⟩, rfl, rfl⟩

end Rank

namespace Variant

instance : Std.TransCmp compareRank where
  eq_swap {v w} := by
    have h : v.rank.compare w.rank = (w.rank.compare v.rank).swap := Std.OrientedCmp.eq_swap
    exact h
  isLE_trans {u v w} huv hvw := by
    have h : (u.rank.compare w.rank).isLE := Std.TransCmp.isLE_trans (b := v.rank) huv hvw
    exact h

section Preference

variable {u v w : Variant}

theorem isPreferredTo_iff : v.isPreferredTo w ↔ v.compareRank w = .lt := Ordering.isLT_iff_eq_lt

/-- One variant is not preferred to another just when the other comes no later. -/
theorem isPreferredTo_eq_false_iff : w.isPreferredTo v = false ↔ (v.compareRank w).isLE := by
  have hs : w.compareRank v = (v.compareRank w).swap := Std.OrientedCmp.eq_swap
  unfold isPreferredTo
  rw [hs]
  cases v.compareRank w <;> simp

theorem isPreferredTo_eq_false (h : (v.compareRank w).isLE) : w.isPreferredTo v = false :=
  isPreferredTo_eq_false_iff.2 h

/-- Two variants that come before or at one another have one rank. -/
theorem rank_eq_of_isLE (hvw : (v.compareRank w).isLE) (hwv : (w.compareRank v).isLE) :
    v.rank = w.rank :=
  Rank.compare_eq_eq.1 (Std.OrientedCmp.isLE_antisymm hvw hwv)

theorem rank_eq_of_not_preferred (h : (w.compareRank v).isLE) (hn : w.isPreferredTo v = false) :
    w.rank = v.rank :=
  rank_eq_of_isLE h (isPreferredTo_eq_false_iff.1 hn)

theorem isPreferredTo_irrefl (v : Variant) : v.isPreferredTo v = false := by
  apply isPreferredTo_eq_false
  have hself : v.compareRank v = .eq := Std.ReflCmp.compare_self
  rw [hself]
  rfl

theorem isPreferredTo_trans (huv : u.isPreferredTo v) (hvw : v.isPreferredTo w) : u.isPreferredTo w := by
  rw [isPreferredTo_iff] at *
  exact Std.TransCmp.lt_trans huv hvw

theorem isLE_of_isPreferredTo (h : v.isPreferredTo w) : (v.compareRank w).isLE := by
  rw [isPreferredTo_iff.1 h]
  rfl

/-- Of two variants with different ranks one is preferred. -/
theorem isPreferredTo_total (hne : v.rank ≠ w.rank) : v.isPreferredTo w ∨ w.isPreferredTo v := by
  by_contra hnone
  rw [not_or, Bool.not_eq_true, Bool.not_eq_true] at hnone
  exact hne (rank_eq_of_isLE (isPreferredTo_eq_false_iff.1 hnone.2)
    (isPreferredTo_eq_false_iff.1 hnone.1))

end Preference

/-- Key and rank determine a variant that one round of casts reaches. -/
theorem Grown.eq_of_rank {casts : List ImplicitCast} (hc : ∀ c ∈ casts, c.source ≠ c.target)
    {ds : List Variant} {v w : Variant} (hv : Grown casts ds v) (hw : Grown casts ds w)
    (hk : v.key = w.key) (he : v.rank = w.rank) : v = w := by
  obtain ⟨hn, hl⟩ := Prod.mk.inj hk
  -- the flag of the first argument is not part of the rank by itself: it follows from the types
  have hlc : v.leftCast = w.leftCast := by
    rw [hv.leftCast_eq hc, hw.leftCast_eq hc, hl, show v.declaredLeft = w.declaredLeft from
      congrArg Rank.declaredLeft he]
  have hi : v.isInfix = w.isInfix := by simpa [rank] using congrArg Rank.isFunction he
  have hrc : v.rightCast = w.rightCast := congrArg Rank.rightCast he
  have hright : v.right = w.right := congrArg Rank.right he
  have hdl : v.declaredLeft = w.declaredLeft := congrArg Rank.declaredLeft he
  have hdr : v.declaredRight = w.declaredRight := congrArg Rank.declaredRight he
  cases v
  cases w
  simp_all

/-! ## Selection -/

/-- `v` is the variant to keep for `k` among `vs`: it has the key, and none with it ranks before. -/
structure IsPreferred (vs : List Variant) (k : String × String) (v : Variant) : Prop where
  mem : v ∈ vs
  key_eq : v.key = k
  least : ∀ w ∈ vs, w.key = k → (v.compareRank w).isLE

/-- What a key holds after an offer for it. -/
def keep (v : Variant) : Option Variant → Variant
  | none => v
  | some w => if v.isPreferredTo w then v else w

theorem find?_offer (held : OrderedMap (String × String) Variant) (v : Variant)
    (k : String × String) :
    (offer held v).find? k = if v.key = k then some (v.keep (held.find? k)) else held.find? k := by
  unfold offer
  by_cases hk : v.key = k
  · subst hk
    cases hh : held.find? v.key with
    | none => simp [OrderedMap.find?_insert, keep]
    | some w =>
      by_cases hp : v.isPreferredTo w
      · simp [OrderedMap.find?_insert, keep, hp]
      · simp [keep, hp, hh]
  · rw [if_neg hk]
    split
    · rw [OrderedMap.find?_insert, if_neg hk]
    · split
      · rw [OrderedMap.find?_insert, if_neg hk]
      · rfl

theorem keep_mem (v : Variant) (o : Option Variant) : v.keep o = v ∨ some (v.keep o) = o := by
  cases o with
  | none => exact .inl rfl
  | some w =>
    by_cases hp : v.isPreferredTo w
    · exact .inl (by simp [keep, hp])
    · exact .inr (by simp [keep, hp])

theorem keep_le (v : Variant) (o : Option Variant) : ((v.keep o).compareRank v).isLE := by
  cases o with
  | none => exact isPreferredTo_eq_false_iff.1 (isPreferredTo_irrefl v)
  | some w =>
    cases hp : v.isPreferredTo w with
    | true => simp [keep, hp, Std.ReflCmp.compare_self]
    | false => simpa [keep, hp] using isPreferredTo_eq_false_iff.1 hp

theorem keep_some_le (v w : Variant) : ((v.keep (some w)).compareRank w).isLE := by
  cases hp : v.isPreferredTo w with
  | true => simpa [keep, hp] using isLE_of_isPreferredTo hp
  | false => simp [keep, hp, Std.ReflCmp.compare_self]

/-- What holds of the variant that a key holds after a run of offers. -/
theorem find?_foldl_offer {vs : List Variant} {m : OrderedMap (String × String) Variant}
    {k : String × String} {v : Variant} (h : (vs.foldl offer m).find? k = some v) :
    (v ∈ vs ∧ v.key = k ∨ m.find? k = some v) ∧
      (∀ w ∈ vs, w.key = k → (v.compareRank w).isLE) ∧
        ∀ w, m.find? k = some w → (v.compareRank w).isLE := by
  induction vs generalizing m with
  | nil =>
    refine ⟨.inr h, by simp, fun w hw => ?_⟩
    obtain rfl : v = w := Option.some.inj (h.symm.trans hw)
    simp [Std.ReflCmp.compare_self]
  | cons u vs ih =>
    obtain ⟨hm, hle, hstart⟩ := ih h
    rw [find?_offer] at hm hstart
    -- the first offer matters to its own key only; there, what is kept ranks no later than either
    by_cases hk : u.key = k
    · rw [if_pos hk] at hm hstart
      have hu : (v.compareRank (u.keep (m.find? k))).isLE := hstart _ rfl
      refine ⟨?_, fun w hw hwk => ?_, fun w hw => ?_⟩
      · rcases hm with ⟨hv, hvk⟩ | hv
        · exact .inl ⟨List.mem_cons_of_mem _ hv, hvk⟩
        · obtain rfl := Option.some.inj hv
          rcases keep_mem u (m.find? k) with he | he
          · rw [he]
            exact .inl ⟨List.mem_cons_self, hk⟩
          · exact .inr he.symm
      · rcases List.mem_cons.1 hw with rfl | hw
        · exact Std.TransCmp.isLE_trans hu (keep_le w _)
        · exact hle w hw hwk
      · rw [hw] at hu
        exact Std.TransCmp.isLE_trans hu (keep_some_le u w)
    · rw [if_neg hk] at hm hstart
      refine ⟨hm.imp_left fun hv => ⟨List.mem_cons_of_mem _ hv.1, hv.2⟩, fun w hw hwk => ?_, hstart⟩
      rcases List.mem_cons.1 hw with rfl | hw
      · exact absurd hwk hk
      · exact hle w hw hwk

theorem find?_foldl_offer_eq_none {vs : List Variant} {m : OrderedMap (String × String) Variant}
    {k : String × String} :
    (vs.foldl offer m).find? k = none ↔ m.find? k = none ∧ ∀ v ∈ vs, v.key ≠ k := by
  induction vs generalizing m with
  | nil => simp
  | cons u vs ih =>
    rw [List.foldl_cons, ih, find?_offer]
    by_cases hk : u.key = k <;> simp [hk]

/-- The variant that is kept for a key is a preferred one. -/
theorem isPreferred_of_find?_select {vs : List Variant} {k : String × String} {v : Variant}
    (h : (select vs).find? k = some v) : IsPreferred vs k v := by
  obtain ⟨hm, hle, -⟩ := find?_foldl_offer h
  rcases hm with ⟨hv, hk⟩ | hv
  · exact ⟨hv, hk, hle⟩
  · cases hv

theorem key_of_find?_select {vs : List Variant} {k : String × String} {v : Variant}
    (h : (select vs).find? k = some v) : v.key = k :=
  (isPreferred_of_find?_select h).key_eq

/-- None is kept only where no variant has the key. -/
theorem find?_select_eq_none {vs : List Variant} {k : String × String} :
    (select vs).find? k = none ↔ ∀ v ∈ vs, v.key ≠ k := by
  rw [select, find?_foldl_offer_eq_none]
  simp

theorem exists_preferred {vs : List Variant} {k : String × String} {v : Variant} (hv : v ∈ vs)
    (hk : v.key = k) : ∃ w, (select vs).find? k = some w := by
  cases hw : (select vs).find? k with
  | some w => exact ⟨w, rfl⟩
  | none => exact absurd hk (find?_select_eq_none.1 hw v hv)

/-! ## Variants told apart by their ranks -/

/-- Key and rank tell the variants apart. -/
def RankedApart (vs : List Variant) : Prop :=
  ∀ v ∈ vs, ∀ w ∈ vs, v.key = w.key → v.rank = w.rank → v = w

theorem rankedApart_of_grown {casts : List ImplicitCast} (hc : ∀ c ∈ casts, c.source ≠ c.target)
    {ds vs : List Variant} (hv : ∀ v ∈ vs, Grown casts ds v) : RankedApart vs := by
  intro v hvm w hwm hk hr
  exact (hv v hvm).eq_of_rank hc (hv w hwm) hk hr

/-- What is kept for a key is preferred to all others with the key. -/
theorem RankedApart.find?_select_eq_some_iff {vs : List Variant} (h : RankedApart vs)
    {k : String × String} {v : Variant} :
    (select vs).find? k = some v ↔
      v ∈ vs ∧ v.key = k ∧ ∀ w ∈ vs, w.key = k → w ≠ v → v.isPreferredTo w := by
  constructor
  · intro hv
    have hp := isPreferred_of_find?_select hv
    refine ⟨hp.mem, hp.key_eq, fun w hw hwk hne => ?_⟩
    have hle := hp.least w hw hwk
    have hranks : v.rank ≠ w.rank := fun hr => hne (h v hp.mem w hw (hp.key_eq.trans hwk.symm) hr).symm
    rcases isPreferredTo_total hranks with hvw | hwv
    · exact hvw
    · rw [isPreferredTo_eq_false hle] at hwv
      cases hwv
  · rintro ⟨hv, hvk, hleast⟩
    obtain ⟨w, hw⟩ := exists_preferred hv hvk
    have hp := isPreferred_of_find?_select hw
    by_cases hwv : w = v
    · rw [hw, hwv]
    · -- two variants that come before one another would have one rank
      have hvw := isLE_of_isPreferredTo (hleast w hp.mem hp.key_eq hwv)
      have hr := rank_eq_of_isLE (hp.least v hv hvk) hvw
      exact absurd (h w hp.mem v hv (hp.key_eq.trans hvk.symm) hr) hwv

/-- What is kept depends only on which variants there are. -/
theorem RankedApart.find?_select_congr {vs ws : List Variant} (h : RankedApart vs)
    (hm : ∀ v, v ∈ vs ↔ v ∈ ws) (k : String × String) :
    (select vs).find? k = (select ws).find? k := by
  have hws : RankedApart ws := fun v hv w hw => h v ((hm v).2 hv) w ((hm w).2 hw)
  refine Option.ext fun v => ?_
  rw [h.find?_select_eq_some_iff, hws.find?_select_eq_some_iff]
  simp only [hm]

end Variant

end CatalogSchema
