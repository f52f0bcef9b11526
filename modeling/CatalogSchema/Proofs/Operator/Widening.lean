import CatalogSchema.Operator.Definition

/-!
# What widening reaches

The variants that come of a list of definitions by one round of casts, position by position
(`mem_extend_definitions`): each argument is the declared one or a type that is cast to it, and a flag
says which. As no cast leads from a type to itself (`ImplicitCast.source_ne_target`), the flag of the
first argument can be read off its types (`Grown.leftCast_eq`).
-/

namespace CatalogSchema

namespace ImplicitCast

theorem ofRow?_eq_some {types : Classification} {excluded : List (String × String)} {r : CastRow}
    {c : ImplicitCast} (h : ofRow? types excluded r = some c) : c.source ≠ c.target := by
  unfold ofRow? at h
  split at h
  · split at h
    · split at h
      · cases h
      · rename_i hne
        cases h
        exact fun he => hne (.inl he)
    · cases h
  · cases h

theorem mem_ofRows {rows : List CastRow} {types : Classification}
    {excluded : List (String × String)} {c : ImplicitCast} :
    c ∈ ofRows rows types excluded ↔ ∃ r ∈ rows, ofRow? types excluded r = some c := by
  rw [ofRows, mem_sortBy, List.mem_eraseDups, List.mem_filterMap]

/-- No cast leads from a type to itself. -/
theorem source_ne_target {rows : List CastRow} {types : Classification}
    {excluded : List (String × String)} {c : ImplicitCast} (h : c ∈ ofRows rows types excluded) :
    c.source ≠ c.target := by
  obtain ⟨r, -, hr⟩ := mem_ofRows.1 h
  exact ofRow?_eq_some hr

end ImplicitCast

namespace Variant

/-! ## Definitions -/

/-- A variant as it is declared. -/
def IsDeclared (v : Variant) : Prop := v = declared v.name v.left v.right v.isInfix

instance : DecidablePred IsDeclared := fun v =>
  inferInstanceAs (Decidable (v = declared v.name v.left v.right v.isInfix))

/-- The variant that an operator defines. -/
theorem of_ofOperator? {types : Classification} {r : OperatorRow} {v : Variant}
    (h : ofOperator? types r = some v) : ∃ left right, types.scalarName? r.left = some left ∧
      types.scalarName? r.right = some right ∧ v = declared r.name left right true := by
  unfold ofOperator? at h
  split at h
  · simp only [Option.bind_eq_bind, Option.bind_eq_some_iff] at h
    obtain ⟨left, hleft, right, hright, h⟩ := h
    exact ⟨left, right, hleft, hright, (Option.some.inj h).symm⟩
  · cases h

/-- The variant that a function defines. -/
theorem of_ofProc? {types : Classification} {p : ProcRow} {v : Variant}
    (h : ofProc? types p = some v) : ∃ first second left right, p.argumentTypes = [first, second] ∧
      types.scalarName? first = some left ∧ types.scalarName? second = some right ∧
        v = declared p.name left right false := by
  unfold ofProc? at h
  split at h
  · split at h
    · rename_i first second harguments
      simp only [Option.bind_eq_bind, Option.bind_eq_some_iff] at h
      obtain ⟨left, hleft, right, hright, h⟩ := h
      exact ⟨first, second, left, right, harguments, hleft, hright, (Option.some.inj h).symm⟩
    · cases h
  · cases h

theorem infix_of_mem {s : Snapshot} {types : Classification} {v : Variant}
    (h : v ∈ infixDefinitions s types) : v = declared v.name v.left v.right true := by
  rw [infixDefinitions, List.mem_eraseDups, List.mem_filterMap] at h
  obtain ⟨r, -, hr⟩ := h
  obtain ⟨left, right, -, -, rfl⟩ := of_ofOperator? hr
  rfl

theorem function_of_mem {s : Snapshot} {types : Classification} {allowed : List String} {v : Variant}
    (h : v ∈ functionDefinitions s types allowed) : v = declared v.name v.left v.right false := by
  rw [functionDefinitions, List.mem_eraseDups, List.mem_filterMap] at h
  obtain ⟨p, -, hp⟩ := h
  obtain ⟨first, second, left, right, -, -, -, rfl⟩ := of_ofProc? hp
  rfl

theorem isDeclared_of_mem_definitions {s : Snapshot} {types : Classification} {allowed : List String}
    {v : Variant} (h : v ∈ definitions s types allowed) : v.IsDeclared := by
  rcases List.mem_append.1 h with h | h
  · have hv := infix_of_mem h
    rw [IsDeclared, show v.isInfix = true by rw [hv]; rfl]
    exact hv
  · have hv := function_of_mem h
    rw [IsDeclared, show v.isInfix = false by rw [hv]; rfl]
    exact hv

/-! ## One round of casts -/

/-- `actual` may stand for `declared`: unchanged, or by one cast. -/
def Fits (casts : List ImplicitCast) (isCast : Bool) (actual declared : String) : Prop :=
  if isCast then ⟨actual, declared⟩ ∈ casts else actual = declared

@[simp] theorem fits_true {casts : List ImplicitCast} {a d : String} :
    Fits casts true a d ↔ ⟨a, d⟩ ∈ casts := by simp [Fits]

@[simp] theorem fits_false {casts : List ImplicitCast} {a d : String} :
    Fits casts false a d ↔ a = d := by simp [Fits]

/-- A variant that stems from one of `definitions`, each argument cast at most once. -/
structure Grown (casts : List ImplicitCast) (definitions : List Variant) (v : Variant) : Prop where
  root : declared v.name v.declaredLeft v.declaredRight v.isInfix ∈ definitions
  left : Fits casts v.leftCast v.left v.declaredLeft
  right : Fits casts v.rightCast v.right v.declaredRight

/-- Without casts from a type to itself, the first argument is cast if it is not as declared. -/
theorem Grown.leftCast_eq {casts : List ImplicitCast} (hc : ∀ c ∈ casts, c.source ≠ c.target)
    {ds : List Variant} {v : Variant} (h : Grown casts ds v) :
    v.leftCast = decide (v.left ≠ v.declaredLeft) := by
  have hl := h.left
  cases hv : v.leftCast <;> simp only [hv, fits_true, fits_false] at hl
  · simp [hl]
  · simpa using hc _ hl

theorem mem_sources {casts : List ImplicitCast} {source target : String} :
    source ∈ sources casts target ↔ ⟨source, target⟩ ∈ casts := by
  rw [sources, List.mem_map]
  constructor
  · rintro ⟨c, hc, rfl⟩
    obtain ⟨hm, ht⟩ := List.mem_filter.1 hc
    rw [← of_decide_eq_true ht]
    exact hm
  · exact fun h => ⟨⟨source, target⟩, List.mem_filter.2 ⟨h, by simp⟩, rfl⟩

/-- A widening leaves a variant as it is, casts either argument, or casts both. -/
theorem mem_widened {casts : List ImplicitCast} {v w : Variant} :
    w ∈ widened casts v ↔
      w = v ∨ (∃ s ∈ v.leftSources casts, v.castLeft s = w) ∨
        (∃ t ∈ v.rightSources casts, v.castRight t = w) ∨
          ∃ s ∈ v.leftSources casts, ∃ t ∈ v.rightSources casts, (v.castLeft s).castRight t = w := by
  simp only [widened, List.cons_append, List.mem_cons, List.mem_append, List.mem_map,
    List.mem_flatMap, or_assoc]

/-- The widenings of a definition, by which of its arguments are cast. -/
theorem mem_widened_declared {casts : List ImplicitCast} {name left right : String} {isInfix : Bool}
    {w : Variant} :
    w ∈ widened casts (declared name left right isInfix) ↔
      declared w.name w.declaredLeft w.declaredRight w.isInfix = declared name left right isInfix ∧
        Fits casts w.leftCast w.left w.declaredLeft ∧
          Fits casts w.rightCast w.right w.declaredRight := by
  have hls : (declared name left right isInfix).leftSources casts = sources casts left := rfl
  have hrs : (declared name left right isInfix).rightSources casts = sources casts right := rfl
  rw [mem_widened, hls, hrs]
  constructor
  · rintro (rfl | ⟨s, hs, rfl⟩ | ⟨t, ht, rfl⟩ | ⟨s, hs, t, ht, rfl⟩)
    · exact ⟨rfl, fits_false.2 rfl, fits_false.2 rfl⟩
    · exact ⟨rfl, fits_true.2 (mem_sources.1 hs), fits_false.2 rfl⟩
    · exact ⟨rfl, fits_false.2 rfl, fits_true.2 (mem_sources.1 ht)⟩
    · exact ⟨rfl, fits_true.2 (mem_sources.1 hs), fits_true.2 (mem_sources.1 ht)⟩
  · rintro ⟨he, hl, hr⟩
    obtain ⟨n, l, r, i, lc, rc, dl, dr⟩ := w
    simp only [declared, mk.injEq] at he
    obtain ⟨rfl, rfl, rfl, rfl, -⟩ := he
    -- the flags of `w` say which of the four ways it came about
    cases lc <;> cases rc <;> simp only [fits_true, fits_false] at hl hr
    · subst hl hr
      exact .inl rfl
    · subst hl
      exact .inr (.inr (.inl ⟨r, mem_sources.2 hr, rfl⟩))
    · subst hr
      exact .inr (.inl ⟨l, mem_sources.2 hl, rfl⟩)
    · exact .inr (.inr (.inr ⟨l, mem_sources.2 hl, r, mem_sources.2 hr, rfl⟩))

/-- One round of casts reaches every combination of unchanged and directly cast arguments. -/
theorem mem_extend_definitions {casts : List ImplicitCast} {ds : List Variant}
    (hd : ∀ d ∈ ds, d.IsDeclared) {w : Variant} : w ∈ extend casts ds ↔ Grown casts ds w := by
  rw [mem_extend]
  constructor
  · rintro ⟨d, hm, hw⟩
    rw [hd d hm] at hw hm
    obtain ⟨hr, hl, hr'⟩ := mem_widened_declared.1 hw
    exact ⟨hr ▸ hm, hl, hr'⟩
  · rintro ⟨hroot, hl, hr⟩
    exact ⟨_, hroot, mem_widened_declared.2 ⟨rfl, hl, hr⟩⟩

end Variant

end CatalogSchema
