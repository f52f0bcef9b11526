import CatalogSchema.Operator.Resolution
import CatalogSchema.Proofs.Operator.Exposure
import CatalogSchema.Proofs.Operator.Preferred
import CatalogSchema.Proofs.Schema.Functions
import CatalogSchema.Proofs.Schema.Resemblance

/-!
# Allowing further functions

Functions and infix operators with one name are ranked together, so a further function may come before an
infix operator of its own name and take its place (`namesake_displaces_operator`). It does no more than that:
what is exposed of a name that is not allowed anew stays, and an infix operator goes only where a function
of its name ranks before it (`exposed_after_allowing`).
-/

namespace CatalogSchema

/-! ## Variants under more allowed names -/

namespace Variant

variable {s : Snapshot} {types : Classification} {casts : List ImplicitCast}
  {allowed allowed' : List String} {v w : Variant}

/-- The variants of the definitions that an allow-list admits. -/
def admitted (s : Snapshot) (types : Classification) (casts : List ImplicitCast)
    (allowed : List String) : List Variant :=
  extend casts (definitions s types allowed)

theorem mem_admitted :
    v ∈ admitted s types casts allowed ↔ Grown casts (definitions s types allowed) v :=
  mem_extend_definitions fun _ => isDeclared_of_mem_definitions

theorem mem_admitted_of_subset (h : ∀ name ∈ allowed, name ∈ allowed')
    (hv : v ∈ admitted s types casts allowed) : v ∈ admitted s types casts allowed' := by
  refine mem_admitted.2 ((mem_admitted.1 hv).mono (fun _ => id) fun d hd => ?_)
  rw [mem_definitions] at hd ⊢
  exact hd.imp_right fun ⟨p, hp, hname, hof⟩ => ⟨p, hp, h _ hname, hof⟩

/-- An operator needs no allowance, and a function none beyond that of its name. -/
theorem mem_admitted_of_allowed (hv : v ∈ admitted s types casts allowed')
    (h : v.isInfix = false → v.name ∈ allowed' → v.name ∈ allowed) :
    v ∈ admitted s types casts allowed := by
  obtain ⟨hroot, hleft, hright⟩ := mem_admitted.1 hv
  refine mem_admitted.2 ⟨?_, hleft, hright⟩
  rw [mem_definitions] at hroot ⊢
  refine hroot.imp_right fun ⟨p, hp, hname, hof⟩ => ⟨p, hp, ?_, hof⟩
  obtain ⟨first, second, left, right, -, -, -, he⟩ := of_ofProc? hof
  simp only [declared, mk.injEq] at he
  obtain ⟨hpname, -, -, hfunction, -⟩ := he
  rw [← hpname] at hname ⊢
  exact h hfunction hname

theorem mem_admitted_of_infix (hv : v ∈ admitted s types casts allowed') (hi : v.isInfix = true) :
    v ∈ admitted s types casts allowed :=
  mem_admitted_of_allowed hv fun hnot => by simp [hi] at hnot

/-! ## Ranks of preferred variants -/

theorem isInfix_eq_of_rank (h : v.rank = w.rank) : v.isInfix = w.isInfix := by
  simpa [rank] using congrArg Rank.isFunction h

/-- Key and rank determine what is exposed of a variant. -/
theorem function_eq_of_rank {exposed : String} (hk : v.key = w.key) (hr : v.rank = w.rank) :
    (Claimant.mk exposed v).function = (Claimant.mk exposed w).function := by
  have hname : v.name = w.name := congrArg Prod.fst hk
  have hright : v.right = w.right := congrArg Rank.right hr
  simp only [Claimant.function, hname, hright, isInfix_eq_of_rank hr]

/-- Whoever is preferred among more variants and is among fewer is preferred there, up to what is not ranked. -/
theorem exists_rank_eq (h : ∀ name ∈ allowed, name ∈ allowed') {k : String × String}
    (hw : (select (admitted s types casts allowed')).find? k = some w)
    (hold : w ∈ admitted s types casts allowed) :
    ∃ v, (select (admitted s types casts allowed)).find? k = some v ∧ w.rank = v.rank := by
  have hpw := isPreferred_of_find?_select hw
  obtain ⟨v, hv⟩ := exists_preferred hold hpw.key_eq
  have hpv := isPreferred_of_find?_select hv
  have hwv := hpw.least v (mem_admitted_of_subset h hpv.mem) hpv.key_eq
  exact ⟨v, hv, rank_eq_of_isLE hwv (hpv.least w hold hpw.key_eq)⟩

end Variant

/-! ## Holders of exposed names -/

namespace Exposure

open Variant (select)

variable {vs vs' : List Variant} {mappings : List OperatorMapping} {left exposed : String} {v w : Variant}

/-- Whoever holds a name is preferred for its operator. -/
theorem find?_of_holder? (h : holder? (select vs) mappings left exposed = some v) :
    (select vs).find? (v.name, left) = some v := by
  rcases Option.or_eq_some_iff.1 h with h | ⟨-, h⟩
  · obtain ⟨m, -, hm⟩ := List.exists_of_findSome?_eq_some h
    obtain ⟨-, -, hname, hfind⟩ := mapped?_eq_some (fun _ _ => Variant.key_of_find?_select) hm
    rwa [hname]
  · obtain ⟨-, hname, hfind⟩ := function?_eq_some (fun _ _ => Variant.key_of_find?_select) h
    rwa [hname]

/-- Where the infix operators only shrink, a name stays with its operator as long as the preferred variant of
that stays of its sort. -/
theorem holder?_of_shrunk
    (hshrunk : ∀ k w, (select vs').find? k = some w → w.isInfix = true →
      ∃ u, (select vs).find? k = some u ∧ u.isInfix = true)
    (hv : holder? (select vs) mappings left exposed = some v)
    (hw : (select vs').find? (v.name, left) = some w) (hsort : w.isInfix = v.isInfix) :
    holder? (select vs') mappings left exposed = some w := by
  have hnone (m : OperatorMapping) (h : mapped? (select vs) left exposed m = none) :
      mapped? (select vs') left exposed m = none := by
    rw [Option.eq_none_iff_forall_ne_some]
    intro u hu
    obtain ⟨he, hi, -, hfind⟩ := mapped?_eq_some (fun _ _ => Variant.key_of_find?_select) hu
    obtain ⟨x, hx, hsame⟩ := hshrunk _ u hfind hi
    rw [mapped?, if_pos he, hx] at h
    simp [hsame] at h
  rcases Option.or_eq_some_iff.1 hv with hv | ⟨hnot, hv⟩
  · obtain ⟨before, m, after, rfl, hm, hbefore⟩ := List.findSome?_eq_some_iff.1 hv
    obtain ⟨he, hi, hname, -⟩ := mapped?_eq_some (fun _ _ => Variant.key_of_find?_select) hm
    have hm' : mapped? (select vs') left exposed m = some w := by
      rw [mapped?, if_pos he, ← hname, hw]
      simp [hsort, hi]
    have hmapped : (before ++ m :: after).findSome? (mapped? (select vs') left exposed) = some w :=
      List.findSome?_eq_some_iff.2 ⟨before, m, after, rfl, hm', fun x hx => hnone x (hbefore x hx)⟩
    rw [holder?, hmapped, Option.some_or]
  · have hmapped : mappings.findSome? (mapped? (select vs') left exposed) = none :=
      List.findSome?_eq_none_iff.2 fun m hm => hnone m (List.findSome?_eq_none_iff.1 hnot m hm)
    obtain ⟨hfunction, hname, -⟩ := function?_eq_some (fun _ _ => Variant.key_of_find?_select) hv
    rw [holder?, hmapped, Option.none_or, function?, ← hname, hw]
    simp [hsort, hfunction]

end Exposure

/-! ## Two allow-lists -/

namespace OperatorResolution

/-- What is exposed under a name for the type of a first argument. -/
def exposed? (r : OperatorResolution) (left exposed : String) : Option ComparisonFunction :=
  (r.comparisons.find? left).bind (·.find? exposed)

variable {s : Snapshot} {types : Classification} {casts : List ImplicitCast}
  {mappings : List OperatorMapping} {allowed allowed' : List String} {left exposed : String}

theorem exposed?_ofSnapshot :
    (ofSnapshot s types casts mappings allowed).exposed? left exposed =
      (Exposure.holder? (Variant.select (Variant.admitted s types casts allowed)) mappings left
        exposed).map fun v => (Claimant.mk exposed v).function :=
  Exposure.find?_comparisons (fun _ _ => Variant.key_of_find?_select) _ _ _

/-- A name stays exposed as it is while an admitted variant is preferred for its operator. -/
theorem exposed?_of_admitted (h : ∀ name ∈ allowed, name ∈ allowed') {v w : Variant}
    (hv : Exposure.holder? (Variant.select (Variant.admitted s types casts allowed)) mappings left
      exposed = some v)
    (hw : (Variant.select (Variant.admitted s types casts allowed')).find? (v.name, left) = some w)
    (hold : w ∈ Variant.admitted s types casts allowed) :
    (ofSnapshot s types casts mappings allowed').exposed? left exposed =
      some (Claimant.mk exposed v).function := by
  obtain ⟨x, hx, hrank⟩ := Variant.exists_rank_eq h hw hold
  obtain rfl : v = x := Option.some.inj ((Exposure.find?_of_holder? hv).symm.trans hx)
  have hkeys : w.key = v.key := (Variant.isPreferred_of_find?_select hw).key_eq.trans
    (Variant.isPreferred_of_find?_select hx).key_eq.symm
  -- no infix operator is preferred that was not before
  have hshrunk (k : String × String) (u : Variant)
      (hu : (Variant.select (Variant.admitted s types casts allowed')).find? k = some u)
      (hi : u.isInfix = true) :
      ∃ y, (Variant.select (Variant.admitted s types casts allowed)).find? k = some y ∧
        y.isInfix = true := by
    have huold : u ∈ Variant.admitted s types casts allowed :=
      Variant.mem_admitted_of_infix (Variant.isPreferred_of_find?_select hu).mem hi
    obtain ⟨y, hy, hyrank⟩ := Variant.exists_rank_eq h hu huold
    exact ⟨y, hy, (Variant.isInfix_eq_of_rank hyrank).symm.trans hi⟩
  rw [exposed?_ofSnapshot,
    Exposure.holder?_of_shrunk hshrunk hv hw (Variant.isInfix_eq_of_rank hrank)]
  exact congrArg some (Variant.function_eq_of_rank hkeys hrank)

/-- What a further allowance can do to what is exposed: nothing to names that are not allowed anew, and it takes an
infix operator away just where a function of its name ranks before it. -/
theorem exposed_after_allowing (s : Snapshot) (types : Classification) (casts : List ImplicitCast)
    (mappings : List OperatorMapping) {allowed allowed' : List String}
    (h : ∀ name ∈ allowed, name ∈ allowed') {left exposed : String} {f : ComparisonFunction}
    (hf : (ofSnapshot s types casts mappings allowed).exposed? left exposed = some f) :
    ((f.operator ∈ allowed' → f.operator ∈ allowed) →
      (ofSnapshot s types casts mappings allowed').exposed? left exposed = some f) ∧
    (f.isInfix = true →
      ∃ v ∈ (ofSnapshot s types casts mappings allowed).variants,
        v.key = (f.operator, left) ∧ v.right = f.argumentType ∧ v.isInfix = true ∧
          ((ofSnapshot s types casts mappings allowed').exposed? left exposed = some f ↔
            ∀ w ∈ (ofSnapshot s types casts mappings allowed').variants, w.key = v.key →
              w.isInfix = false → w.isPreferredTo v = false)) := by
  rw [exposed?_ofSnapshot] at hf
  obtain ⟨v, hholder, rfl⟩ := Option.map_eq_some_iff.1 hf
  have hv := Variant.isPreferred_of_find?_select (Exposure.find?_of_holder? hholder)
  have hmem := Variant.mem_admitted_of_subset h hv.mem
  obtain ⟨w, hfind⟩ := Variant.exists_preferred hmem hv.key_eq
  have hw := Variant.isPreferred_of_find?_select hfind
  have hkeys : w.key = v.key := hw.key_eq.trans hv.key_eq.symm
  have hwv : (w.compareRank v).isLE := hw.least v hmem hv.key_eq
  refine ⟨fun hallowed => ?_, fun hi => ⟨v, hv.mem, hv.key_eq, rfl, hi, fun hstays u hu hk _ => ?_,
    fun hnone => ?_⟩⟩
  · have hnames : w.name = v.name := congrArg Prod.fst hkeys
    refine exposed?_of_admitted h hholder hfind (Variant.mem_admitted_of_allowed hw.mem ?_)
    rw [hnames]
    exact fun _ => hallowed
  · -- what is still exposed is the preferred variant, so it is infix and of the same rank
    rw [exposed?_ofSnapshot] at hstays
    obtain ⟨x, hx, he⟩ := Option.map_eq_some_iff.1 hstays
    have hxfind := Exposure.find?_of_holder? hx
    rw [show x.name = v.name from congrArg ComparisonFunction.operator he, hfind] at hxfind
    obtain rfl : w = x := Option.some.inj hxfind
    have hwi : w.isInfix = true := (congrArg ComparisonFunction.isInfix he).trans hi
    have hle := hv.least w (Variant.mem_admitted_of_infix hw.mem hwi) hw.key_eq
    refine Variant.isPreferredTo_eq_false ?_
    exact Std.TransCmp.isLE_trans hle (hw.least u hu (hk.trans hv.key_eq))
  · cases hwi : w.isInfix with
    | true => exact exposed?_of_admitted h hholder hfind (Variant.mem_admitted_of_infix hw.mem hwi)
    | false =>
      have hrank := Variant.rank_eq_of_not_preferred hwv (hnone w hw.mem hkeys hwi)
      rw [Variant.isInfix_eq_of_rank hrank, show v.isInfix = true from hi] at hwi
      cases hwi

/-- The small catalog with an operator on two types and a function of the same name on one. -/
def namesakeSample : Snapshot :=
  let rows : CatalogRows := { CatalogRows.sample with
    procs := [⟨65, "=", 11, "f", 16, [23, 23], 0, 0⟩]
    operators := [⟨98, "=", 23, 25, 16⟩] }
  ⟨rows, 1259, .ofRows rows, by decide, rfl⟩

/-- Allowing a function takes away the operator of its name. -/
theorem namesake_displaces_operator :
    let before := ofSnapshot namesakeSample namesakeSample.types namesakeSample.casts [⟨"=", "_eq"⟩] []
    let after := ofSnapshot namesakeSample namesakeSample.types namesakeSample.casts [⟨"=", "_eq"⟩] ["="]
    (∀ name ∈ ([] : List String), name ∈ ["="]) ∧
      before.exposed? "int4" "_eq" = some ⟨"=", "text", true⟩ ∧ after.exposed? "int4" "_eq" = none := by
  decide +kernel

/-- The small catalog with two operators, a function of the name of one of them that ranks after it, and a
function of another name. -/
def neighbourSample : Snapshot :=
  let rows : CatalogRows := { CatalogRows.sample with
    procs := [⟨65, "=", 11, "f", 16, [23, 25], 0, 0⟩, ⟨66, "like", 11, "f", 16, [23, 23], 0, 0⟩]
    operators := [⟨96, "=", 23, 23, 16⟩, ⟨97, "<", 23, 23, 16⟩] }
  ⟨rows, 1259, .ofRows rows, by decide, rfl⟩

/-- Both functions are allowed, and both operators stay: no function has the name of the one, and that which
has the name of the other is not preferred to it. -/
theorem operators_kept_beside_functions :
    let mappings : List OperatorMapping := [⟨"=", "_eq"⟩, ⟨"<", "_lt"⟩]
    let resolve := ofSnapshot neighbourSample neighbourSample.types neighbourSample.casts mappings
    (∀ name ∈ ([] : List String), name ∈ ["=", "like"]) ∧
      (∃ w ∈ (resolve ["=", "like"]).variants, w.key = ("=", "int4") ∧ w.isInfix = false) ∧
      (resolve ["=", "like"]).exposed? "int4" "like" = some ⟨"like", "int4", false⟩ ∧
      ∀ exposed f, (exposed, f) ∈ [("_eq", ⟨"=", "int4", true⟩), ("_lt", ⟨"<", "int4", true⟩)] →
        (resolve []).exposed? "int4" exposed = some f ∧
          (resolve ["=", "like"]).exposed? "int4" exposed = some f := by
  intro mappings resolve
  have hsubset : ∀ name ∈ ([] : List String), name ∈ ["=", "like"] := by decide
  have heq : (resolve []).exposed? "int4" "_eq" = some ⟨"=", "int4", true⟩ := by decide +kernel
  have hlt : (resolve []).exposed? "int4" "_lt" = some ⟨"<", "int4", true⟩ := by decide +kernel
  have hadmitted : ∃ w ∈ (resolve ["=", "like"]).variants, w.key = ("=", "int4") ∧ w.isInfix = false := by
    decide +kernel
  have hlike : (resolve ["=", "like"]).exposed? "int4" "like" = some ⟨"like", "int4", false⟩ := by
    decide +kernel
  have hranks : ∀ v ∈ (resolve []).variants, v.key = ("=", "int4") → v.right = "int4" →
      ∀ w ∈ (resolve ["=", "like"]).variants, w.key = v.key → w.isInfix = false →
        w.isPreferredTo v = false := by
    decide +kernel
  have heq' : (resolve ["=", "like"]).exposed? "int4" "_eq" = some ⟨"=", "int4", true⟩ := by
    obtain ⟨-, hinfix⟩ := exposed_after_allowing neighbourSample neighbourSample.types neighbourSample.casts
      mappings hsubset heq
    obtain ⟨v, hv, hkey, hright, -, hstays⟩ := hinfix rfl
    exact hstays.2 (hranks v hv hkey hright)
  have hlt' : (resolve ["=", "like"]).exposed? "int4" "_lt" = some ⟨"<", "int4", true⟩ :=
    (exposed_after_allowing neighbourSample neighbourSample.types neighbourSample.casts
      mappings hsubset hlt).1 (by decide)
  refine ⟨hsubset, hadmitted, hlike, fun exposed f hf => ?_⟩
  rcases List.mem_cons.1 hf with hf | hf
  · obtain ⟨rfl, rfl⟩ := Prod.mk.inj hf
    exact ⟨heq, heq'⟩
  · obtain ⟨rfl, rfl⟩ := Prod.mk.inj (List.mem_singleton.1 hf)
    exact ⟨hlt, hlt'⟩

end OperatorResolution

end CatalogSchema
