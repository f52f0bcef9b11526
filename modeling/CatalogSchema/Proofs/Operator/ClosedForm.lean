import CatalogSchema.Proofs.Catalog.Lookup
import CatalogSchema.Proofs.Operator.Preferred

/-!
# Which second argument an operator takes

For an operator and the type of its first argument the preferred variant can be told without ranking
anything. A definition may serve in five ways, its `Tier`; the best tier in which any definition serves
decides, and within it the least second type (`Tier.Decides`). The main statement is
`preferred_variant_closed_form`.
-/

namespace CatalogSchema

namespace Snapshot

/-- The variants among which one is chosen for each operator and first argument type. -/
def variants (s : Snapshot) (allowed : List String) : List Variant :=
  Variant.extend s.casts (Variant.definitions s s.types allowed)

/-- The snapshot defines the operator on the two types: as an infix operator, or as an allowed function. -/
def Defines (s : Snapshot) (allowed : List String) (isInfix : Bool) (name left right : String) : Prop :=
  if isInfix then Variant.declared name left right true ∈ Variant.infixDefinitions s s.types
  else Variant.declared name left right false ∈ Variant.functionDefinitions s s.types allowed

end Snapshot

/-! ## Grades -/

theorem bool_compare_eq_lt {a b : Bool} : compare a b = .lt ↔ a.toNat < b.toNat := by
  cases a <;> cases b <;> decide

theorem bool_compare_eq_eq {a b : Bool} : compare a b = .eq ↔ a.toNat = b.toNat := by
  cases a <;> cases b <;> decide

namespace Rank

/-- The first four parts of a rank as one number. -/
def grade (r : Rank) : Nat :=
  8 * r.mixed.toNat + 4 * r.cast.toNat + 2 * r.estranged.toNat + r.rightCast.toNat

/-- Of two ranks the one that is not greater has a lesser grade, or the same and no greater type. -/
theorem grade_of_isLE {a b : Rank} (h : (a.compare b).isLE) :
    a.grade < b.grade ∨
      a.grade = b.grade ∧
        (Ord.compare a.right b.right = .lt ∨
          a.right = b.right ∧ (a.isFunction = true → b.isFunction = true)) := by
  have ha := a.estranged.toNat_le
  have ha' := a.rightCast.toNat_le
  have hb := b.estranged.toNat_le
  have hb' := b.rightCast.toNat_le
  have hc := a.cast.toNat_le
  have hc' := b.cast.toNat_le
  simp only [Rank.compare, byTwo, compareLex, compareOn, Ordering.isLE_then_iff_or,
    Ordering.then_eq_lt, Ordering.then_eq_eq, bool_compare_eq_lt, bool_compare_eq_eq] at h
  unfold grade
  rcases h with (h | h) | ⟨h, (h' | h') | ⟨h', (h'' | ⟨h'', hf⟩) | ⟨⟨h'', hf⟩, -⟩⟩⟩
  · omega
  · omega
  · omega
  · omega
  · exact .inr ⟨by omega, .inl h''⟩
  · refine .inr ⟨by omega, .inr ⟨Std.LawfulEqOrd.eq_of_compare h'', fun ht => ?_⟩⟩
    have hle := b.isFunction.toNat_le
    simp [ht] at hf
    omega
  · refine .inr ⟨by omega, .inr ⟨Std.LawfulEqOrd.eq_of_compare h'', fun ht => ?_⟩⟩
    exact Bool.toNat_eq_one.1 (by simpa [ht] using hf.symm)

end Rank

/-- The ways in which a definition serves an operator on a first argument type, the best one first. -/
inductive Tier where
  /-- It is on that type alone. -/
  | onOneType
  /-- Its first argument has that type. -/
  | direct
  /-- It is on one type, to which that type is cast. -/
  | castToOneType
  /-- That type is cast to its first argument, whose type is cast to its second one in turn. -/
  | castTwice
  /-- That type is cast to its first argument. -/
  | castToFirst
  deriving DecidableEq, Repr

namespace Tier

def position : Tier → Nat
  | onOneType => 1
  | direct => 2
  | castToOneType => 3
  | castTwice => 4
  | castToFirst => 5

/-- Some definition, infix or not as told, serves in this way with `right` as its second type. -/
def Attained (s : Snapshot) (allowed : List String) (name left : String) (isInfix : Bool)
    (right : String) : Tier → Prop
  | onOneType => right = left ∧ s.Defines allowed isInfix name left left
  | direct => s.Defines allowed isInfix name left right
  | castToOneType => ⟨left, right⟩ ∈ s.casts ∧ s.Defines allowed isInfix name right right
  | castTwice =>
    ⟨left, right⟩ ∈ s.casts ∧ ∃ r, s.Defines allowed isInfix name right r ∧ ⟨right, r⟩ ∈ s.casts
  | castToFirst => ∃ d, ⟨left, d⟩ ∈ s.casts ∧ s.Defines allowed isInfix name d right

/-- The tier is the first that is attained, and `v` has the least second type in it; `v` is infix just
when an infix definition attains the tier with that type. -/
structure Decides (s : Snapshot) (allowed : List String) (name left : String) (v : Variant)
    (tier : Tier) : Prop where
  first : ∀ t : Tier, t.position < tier.position →
    ∀ isInfix right, ¬ t.Attained s allowed name left isInfix right
  attained : ∃ isInfix, tier.Attained s allowed name left isInfix v.right
  least : ∀ isInfix right, tier.Attained s allowed name left isInfix right →
    (compare v.right right).isLE
  isInfix_iff : v.isInfix = true ↔ tier.Attained s allowed name left true v.right

/-- The grade of the variants that come of a tier. -/
def grade : Tier → Nat
  | onOneType => 0
  | direct => 8
  | castToOneType => 12
  | castTwice => 13
  | castToFirst => 14

theorem grade_lt_of_position_lt {t u : Tier} (h : t.position < u.position) : t.grade < u.grade := by
  cases t <;> cases u <;> simp_all [position, grade]

end Tier

section

variable {s : Snapshot} {allowed : List String} {name left : String}

theorem declared_mem_definitions {isInfix : Bool} {right : String} :
    Variant.declared name left right isInfix ∈ Variant.definitions s s.types allowed ↔
      s.Defines allowed isInfix name left right := by
  rw [Variant.definitions, List.mem_append]
  unfold Snapshot.Defines
  cases isInfix
  · refine ⟨fun h => h.resolve_left fun h => ?_, .inr⟩
    have hv := congrArg Variant.isInfix (Variant.infix_of_mem h)
    cases hv
  · refine ⟨fun h => h.resolve_right fun h => ?_, .inl⟩
    have hv := congrArg Variant.isInfix (Variant.function_of_mem h)
    cases hv

theorem mem_variants {v : Variant} :
    v ∈ s.variants allowed ↔
      s.Defines allowed v.isInfix v.name v.declaredLeft v.declaredRight ∧
        Variant.Fits s.casts v.leftCast v.left v.declaredLeft ∧
          Variant.Fits s.casts v.rightCast v.right v.declaredRight := by
  rw [Snapshot.variants, Variant.mem_extend_definitions fun d => Variant.isDeclared_of_mem_definitions,
    ← declared_mem_definitions]
  exact ⟨fun h => ⟨h.root, h.left, h.right⟩, fun h => ⟨h.1, h.2.1, h.2.2⟩⟩

/-- Every way to serve shows in a variant that is no worse than its tier. -/
theorem Tier.Attained.exists_variant {tier : Tier} {isInfix : Bool} {right : String}
    (h : tier.Attained s allowed name left isInfix right) :
    ∃ v ∈ s.variants allowed, v.key = (name, left) ∧ v.right = right ∧ v.isInfix = isInfix ∧
      v.rank.grade ≤ tier.grade := by
  cases tier with
  | onOneType =>
    obtain ⟨rfl, hd⟩ := h
    refine ⟨.declared name right right isInfix, mem_variants.2 ⟨hd, ?_, ?_⟩, rfl, rfl, rfl, ?_⟩
    · exact Variant.fits_false.2 rfl
    · exact Variant.fits_false.2 rfl
    · simp [Rank.grade, Variant.rank, Variant.isCast, Variant.declared]
  | direct =>
    refine ⟨.declared name left right isInfix, mem_variants.2 ⟨h, ?_, ?_⟩, rfl, rfl, rfl, ?_⟩
    · exact Variant.fits_false.2 rfl
    · exact Variant.fits_false.2 rfl
    · have hm := (left != right).toNat_le
      simp [Rank.grade, Variant.rank, Variant.isCast, Variant.declared, Tier.grade]
      omega
  | castToOneType =>
    obtain ⟨hc, hd⟩ := h
    refine ⟨(Variant.declared name right right isInfix).castLeft left,
      mem_variants.2 ⟨hd, Variant.fits_true.2 hc, Variant.fits_false.2 rfl⟩, rfl, rfl, rfl, ?_⟩
    simp [Rank.grade, Variant.rank, Variant.isCast, Variant.declared, Variant.castLeft, Tier.grade]
  | castTwice =>
    obtain ⟨hc, r, hd, hr⟩ := h
    refine ⟨((Variant.declared name right r isInfix).castLeft left).castRight right,
      mem_variants.2 ⟨hd, Variant.fits_true.2 hc, Variant.fits_true.2 hr⟩, rfl, rfl, rfl, ?_⟩
    simp [Rank.grade, Variant.rank, Variant.isCast, Variant.declared, Variant.castLeft,
      Variant.castRight, Tier.grade]
  | castToFirst =>
    obtain ⟨d, hc, hd⟩ := h
    refine ⟨(Variant.declared name d right isInfix).castLeft left,
      mem_variants.2 ⟨hd, Variant.fits_true.2 hc, Variant.fits_false.2 rfl⟩, rfl, rfl, rfl, ?_⟩
    have hm := (right != d).toNat_le
    simp [Rank.grade, Variant.rank, Variant.isCast, Variant.declared, Variant.castLeft, Tier.grade]
    omega

/-- Whoever is preferred serves in the way that its grade tells: a variant of another grade is beaten by
the one that leaves its second argument as declared. -/
theorem IsPreferred.exists_tier {v : Variant}
    (h : Variant.IsPreferred (s.variants allowed) (name, left) v) :
    ∃ tier : Tier, tier.Attained s allowed name left v.isInfix v.right ∧ v.rank.grade = tier.grade := by
  obtain ⟨hd, hl, hr⟩ := mem_variants.1 h.mem
  obtain ⟨hn, hleft⟩ : v.name = name ∧ v.left = left := Prod.mk.inj h.key_eq
  -- a tier in which some definition serves bounds the grade of `v`
  have hbound : ∀ (tier : Tier) {isInfix right}, tier.Attained s allowed name left isInfix right →
      v.rank.grade ≤ tier.grade := by
    intro tier isInfix right ht
    obtain ⟨w, hw, hwk, -, -, hg⟩ := ht.exists_variant
    rcases Rank.grade_of_isLE (h.least w hw hwk) with hlt | ⟨he, -⟩
    · omega
    · omega
  obtain ⟨n, l, r, i, lc, rc, dl, dr⟩ := v
  subst hn hleft
  cases lc <;> cases rc <;> simp only [Variant.fits_true, Variant.fits_false] at hl hr
  · subst hl hr
    by_cases he : r = l
    · subst he
      exact ⟨.onOneType, ⟨rfl, hd⟩, by simp [Rank.grade, Variant.rank, Variant.isCast, Tier.grade]⟩
    · have he' : (l != r) = true := bne_iff_ne.2 (Ne.symm he)
      exact ⟨.direct, hd, by simp [Rank.grade, Variant.rank, Variant.isCast, Tier.grade, he']⟩
  · subst hl
    have hg := hbound .direct hd
    simp [Rank.grade, Variant.rank, Variant.isCast, Tier.grade] at hg
  · subst hr
    by_cases he : r = dl
    · subst he
      exact ⟨.castToOneType, ⟨hl, hd⟩,
        by simp [Rank.grade, Variant.rank, Variant.isCast, Tier.grade]⟩
    · have he' : (r != dl) = true := bne_iff_ne.2 he
      exact ⟨.castToFirst, ⟨dl, hl, hd⟩,
        by simp [Rank.grade, Variant.rank, Variant.isCast, Tier.grade, he']⟩
  · by_cases he : r = dl
    · subst he
      exact ⟨.castTwice, ⟨hl, dr, hd, hr⟩,
        by simp [Rank.grade, Variant.rank, Variant.isCast, Tier.grade]⟩
    · have he' : (r != dl) = true := bne_iff_ne.2 he
      have hg := hbound .castToFirst ⟨dl, hl, hd⟩
      simp [Rank.grade, Variant.rank, Variant.isCast, Tier.grade, he'] at hg

/-- The tier of a preferred variant is the one that decides. -/
theorem IsPreferred.decides {v : Variant}
    (h : Variant.IsPreferred (s.variants allowed) (name, left) v) :
    ∃ tier : Tier, tier.Decides s allowed name left v := by
  obtain ⟨tier, ht, hg⟩ := exists_tier h
  have hcompare : ∀ {t : Tier} {isInfix right}, t.Attained s allowed name left isInfix right →
      tier.grade < t.grade ∨ tier.grade ≤ t.grade ∧ (compare v.right right = .lt ∨
        v.right = right ∧ (isInfix = true → v.isInfix = true)) := by
    intro t isInfix right ha
    obtain ⟨w, hw, hwk, hwr, hwi, hwg⟩ := ha.exists_variant
    rcases Rank.grade_of_isLE (h.least w hw hwk) with hlt | ⟨he, hle⟩
    · exact .inl (by omega)
    · refine .inr ⟨by omega, ?_⟩
      rw [← hwr, ← hwi]
      refine hle.imp_right fun hle => ⟨hle.1, fun hwi => ?_⟩
      simpa [Variant.rank, hwi] using hle.2
  refine ⟨tier, ⟨fun t hlt isInfix right ha => ?_, ⟨_, ht⟩, fun isInfix right ha => ?_, ?_⟩⟩
  · have hlt' := Tier.grade_lt_of_position_lt hlt
    rcases hcompare ha with h1 | ⟨h1, -⟩
    · omega
    · omega
  · rcases hcompare ha with h1 | ⟨-, h1 | ⟨h1, -⟩⟩
    · omega
    · rw [h1]
      rfl
    · rw [h1, Std.ReflOrd.compare_self]
      rfl
  · constructor
    · intro hi
      rw [← hi]
      exact ht
    · intro ha
      rcases hcompare ha with h1 | ⟨-, h1 | ⟨-, h1⟩⟩
      · omega
      · rw [Std.ReflOrd.compare_self] at h1
        cases h1
      · exact h1 rfl

theorem exists_variant_iff :
    (∃ v ∈ s.variants allowed, v.key = (name, left)) ↔
      (∃ isInfix right, s.Defines allowed isInfix name left right) ∨
        ∃ d, ⟨left, d⟩ ∈ s.casts ∧ ∃ isInfix right, s.Defines allowed isInfix name d right := by
  constructor
  · rintro ⟨v, hv, hk⟩
    obtain ⟨hd, hl, -⟩ := mem_variants.1 hv
    obtain ⟨rfl, rfl⟩ : v.name = name ∧ v.left = left := Prod.mk.inj hk
    cases hc : v.leftCast <;> simp only [hc, Variant.fits_true, Variant.fits_false] at hl
    · rw [← hl] at hd
      exact .inl ⟨_, _, hd⟩
    · exact .inr ⟨_, hl, _, _, hd⟩
  · rintro (⟨isInfix, right, hd⟩ | ⟨d, hc, isInfix, right, hd⟩)
    · have ha : Tier.direct.Attained s allowed name left isInfix right := hd
      obtain ⟨v, hv, hk, -⟩ := ha.exists_variant
      exact ⟨v, hv, hk⟩
    · have ha : Tier.castToFirst.Attained s allowed name left isInfix right := ⟨d, hc, hd⟩
      obtain ⟨v, hv, hk, -⟩ := ha.exists_variant
      exact ⟨v, hv, hk⟩

/-- An operator has a variant for a first argument type just when it is defined on that type or on one
that it is cast to, and the variant is the one that the first attained tier decides on. -/
theorem preferred_variant_closed_form (s : Snapshot) (allowed : List String) (name left : String) :
    let preferred := Variant.select (s.variants allowed)
    ((preferred.find? (name, left)).isSome ↔
      (∃ isInfix right, s.Defines allowed isInfix name left right) ∨
        ∃ d, ⟨left, d⟩ ∈ s.casts ∧ ∃ isInfix right, s.Defines allowed isInfix name d right) ∧
    ∀ v, preferred.find? (name, left) = some v →
      ∃ tier : Tier, tier.Decides s allowed name left v := by
  intro preferred
  refine ⟨?_, fun v hv => IsPreferred.decides (Variant.isPreferred_of_find?_select hv)⟩
  rw [← exists_variant_iff, ← not_iff_not, Option.not_isSome_iff_eq_none,
    Variant.find?_select_eq_none]
  simp

end

end CatalogSchema
