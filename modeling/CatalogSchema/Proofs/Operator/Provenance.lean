import CatalogSchema.Proofs.Operator.CastClosure

/-!
# Where variants come from

However often a collection of definitions is extended by casts, each variant in it stems from one definition
by at most one cast of each argument (`Variant.Grown`). The flags carry this through a round: an argument
that is not flagged is still of the type it was declared with, so a cast of it leads to that type, and one
that is flagged is not cast again. Casts in a chain or a cycle are therefore never put together
(`casts_are_not_chained`).
-/

namespace CatalogSchema

namespace Variant

variable {casts : List ImplicitCast} {ds vs : List Variant} {n : Nat} {w : Variant}

/-- A definition stems from itself. -/
theorem grown_of_isDeclared {d : Variant} (hd : d.IsDeclared) (hm : d ∈ ds) : Grown casts ds d := by
  unfold IsDeclared at hd
  rw [hd] at hm ⊢
  exact ⟨hm, fits_false.2 rfl, fits_false.2 rfl⟩

/-- One more cast keeps what is known of a variant, since only an argument of its declared type is cast. -/
theorem isClosed_grown (casts : List ImplicitCast) (ds : List Variant) :
    IsClosed casts (Grown casts ds) where
  left v hv hnot source hc := by
    have hleft := hv.left
    rw [hnot, fits_false] at hleft
    rw [hleft] at hc
    exact ⟨hv.root, fits_true.2 hc, hv.right⟩
  right v hv hnot source hc := by
    have hright := hv.right
    rw [hnot, fits_false] at hright
    rw [hright] at hc
    exact ⟨hv.root, hv.left, fits_true.2 hc⟩

/-- No number of rounds leads out of what stems from the definitions. -/
theorem grown_of_mem_iterate (hvs : ∀ v ∈ vs, Grown casts ds v) (hw : w ∈ (extend casts)^[n] vs) :
    Grown casts ds w := by
  induction n generalizing vs with
  | zero => exact hvs w hw
  | succ n ih =>
    rw [Function.iterate_succ_apply] at hw
    have hround : ∀ v ∈ extend casts vs, Grown casts ds v := by
      intro v hv
      exact mem_of_isClosed (isClosed_grown casts ds) hvs hv
    exact ih hround hw

/-- No round loses a variant. -/
theorem mem_iterate_of_mem (hw : w ∈ vs) : w ∈ (extend casts)^[n] vs := by
  induction n generalizing vs with
  | zero => exact hw
  | succ n ih =>
    rw [Function.iterate_succ_apply]
    exact ih (mem_extend_of_mem casts hw)

/-- After any number of rounds every variant has the name, the kind and the declared types of a definition,
and each of its arguments is, as its flag says, of the declared type or of one with a cast to it; after the
first round there are all such variants. -/
theorem casts_are_not_chained (casts : List ImplicitCast) {ds : List Variant} (hd : ∀ d ∈ ds, d.IsDeclared)
    (n : Nat) :
    (∀ w ∈ (extend casts)^[n] ds, Grown casts ds w) ∧
      ∀ w, Grown casts ds w → w ∈ (extend casts)^[n + 1] ds := by
  constructor
  · intro w hw
    exact grown_of_mem_iterate (fun d hm => grown_of_isDeclared (hd d hm) hm) hw
  · intro w hw
    rw [Function.iterate_succ_apply]
    exact mem_iterate_of_mem ((mem_extend_definitions hd).2 hw)

/-- Two-byte integers are cast to four bytes, and these to eight and back; an operator on eight bytes takes
four in either place, and two in none. -/
theorem two_casts_are_too_many :
    let casts : List ImplicitCast := [⟨"int2", "int4"⟩, ⟨"int4", "int8"⟩, ⟨"int8", "int4"⟩]
    let ds := [declared "=" "int8" "int8" true]
    (∀ d ∈ ds, d.IsDeclared) ∧
      (∀ w ∈ (extend casts)^[3] ds, w.left ≠ "int2" ∧ w.right ≠ "int2") ∧
      ((declared "=" "int8" "int8" true).castLeft "int4").castRight "int4" ∈ (extend casts)^[3] ds := by
  intro casts ds
  have hd : ∀ d ∈ ds, d.IsDeclared := by decide
  obtain ⟨hsound, -⟩ := casts_are_not_chained casts hd 3
  obtain ⟨-, hcomplete⟩ := casts_are_not_chained casts hd 2
  refine ⟨hd, ?_, hcomplete _ ⟨by decide, fits_true.2 (by decide), fits_true.2 (by decide)⟩⟩
  have hfar (isCast : Bool) : ¬ Fits casts isCast "int2" "int8" := by
    cases isCast with
    | false =>
      rw [fits_false]
      decide
    | true =>
      rw [fits_true]
      decide
  intro w hw
  obtain ⟨hroot, hleft, hright⟩ := hsound w hw
  have hdeclared := List.mem_singleton.1 hroot
  simp only [declared, mk.injEq] at hdeclared
  obtain ⟨-, hl, hr, -⟩ := hdeclared
  constructor
  · intro h
    rw [h, hl] at hleft
    exact hfar w.leftCast hleft
  · intro h
    rw [h, hr] at hright
    exact hfar w.rightCast hright

end Variant

end CatalogSchema
