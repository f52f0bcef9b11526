import CatalogSchema.Proofs.Catalog.Lookup
import CatalogSchema.Proofs.Catalog.Renumbering
import CatalogSchema.Proofs.Operator.Exposure
import CatalogSchema.Proofs.Operator.Preferred
import CatalogSchema.Proofs.Settlement
import CatalogSchema.Schema.Resolution

/-!
# What the functions of a schema depend on

The aggregate functions of a schema depend on what the procedures add to it, in any order, and the
comparison functions on which variants there are (`Variant.exposed_eq`). Both show nothing of identifiers:
where two snapshots have the same procedures, operators and casts up to a renumbering and name the types
alike (`Snapshot.SameFunctions`), they have the same functions.
-/

namespace CatalogSchema

/-! ## Aggregate functions -/

namespace Aggregate

/-- The order of candidates, seen from what they add to the schema. -/
def compareEntries :
    String × String × AggregateFunction → String × String × AggregateFunction → Ordering :=
  compareLex (compareOn Prod.fst) (byTwo (fun e => e.2.1) fun e => e.2.2.returnType)

instance : Std.TransCmp compareEntries :=
  inferInstanceAs (Std.TransCmp (compareLex (compareOn Prod.fst)
    (byTwo (fun e : String × String × AggregateFunction => e.2.1) fun e => e.2.2.returnType)))

theorem eq_of_compareEntries {d e : String × String × AggregateFunction}
    (h : compareEntries d e = .eq) : d = e := by
  obtain ⟨hargument, hname, hreturn⟩ := byThree_eq_eq.1 h
  have hfunction : d.2.2 = e.2.2 := congrArg AggregateFunction.mk hreturn
  exact Prod.ext hargument (Prod.ext hname hfunction)

/-- What candidates add to the schema does not depend on the order they come in, nor on what else
tells them apart. -/
theorem functions_eq_of_perm {as bs : List Aggregate} (h : (as.map entry).Perm (bs.map entry)) :
    functions (Bid.winners (Bid.settle key [] (sortBy compareCandidates as))) =
      functions (Bid.winners (Bid.settle key [] (sortBy compareCandidates bs))) := by
  let entryKey (e : String × String × AggregateFunction) : String × String := (e.1, e.2.1)
  have hsort : (sortBy compareCandidates as).map entry = (sortBy compareCandidates bs).map entry :=
    map_sortBy_eq_of_perm compareEntries (fun _ _ => rfl) (fun _ _ => eq_of_compareEntries) h
  have hwin (cs : List Aggregate) : (Bid.winners (Bid.settle key [] cs)).map entry =
      Bid.winners (Bid.settle entryKey [] (cs.map entry)) := by
    symm
    exact Bid.winners_settle_map (fun _ => rfl) [] cs
  have hfunctions (cs : List Aggregate) : functions cs =
      .nest (sortBy (byTwo Prod.fst fun e => e.2.1) (cs.map entry)) :=
    congrArg OrderedMap.nest (map_sortBy _ fun _ _ _ _ => rfl)
  rw [hfunctions, hfunctions, hwin, hwin, hsort]

/-- What a procedure adds to the schema as an aggregate, if it qualifies. -/
def listed? (s : Snapshot) (p : ProcRow) : Option (String × String × AggregateFunction) :=
  (ofProc? s s.types p).map entry

theorem aggregates_buildSchema {s t : Snapshot} {o p : Options}
    (h : (t.rows.procs.filterMap (listed? t)).Perm (s.rows.procs.filterMap (listed? s))) :
    (buildSchema t p).aggregates = (buildSchema s o).aggregates := by
  refine functions_eq_of_perm ?_
  rw [List.map_filterMap, List.map_filterMap]
  exact h

end Aggregate

/-! ## Comparison functions -/

namespace Variant

/-- The comparison functions that come of a list of variants. -/
def exposed (vs : List Variant) (mappings : List OperatorMapping) :
    OrderedMap String (OrderedMap String ComparisonFunction) :=
  (Exposure.ofPreferred (select vs) mappings).comparisons

/-- Two lists of the variants that casts reach from the definitions expose the same functions. -/
theorem exposed_eq {casts : List ImplicitCast} {ds vs ws : List Variant}
    (hc : ∀ c ∈ casts, c.source ≠ c.target) (hv : ∀ v, v ∈ vs ↔ Grown casts ds v)
    (hw : ∀ w, w ∈ ws ↔ Grown casts ds w) (mappings : List OperatorMapping) :
    exposed vs mappings = exposed ws mappings := by
  have hapart : RankedApart vs := rankedApart_of_grown hc fun v => (hv v).1
  have hselect := hapart.find?_select_congr fun v => (hv v).trans (hw v).symm
  exact congrArg Exposure.comparisons
    (Exposure.ofPreferred_eq_of_find? (fun _ _ => key_of_find?_select) hselect mappings)

theorem Grown.mono {casts casts' : List ImplicitCast} {ds ds' : List Variant}
    (hc : ∀ c ∈ casts, c ∈ casts') (hd : ∀ d ∈ ds, d ∈ ds') {v : Variant} (h : Grown casts ds v) :
    Grown casts' ds' v := by
  have hfits {isCast : Bool} {a d : String} (hf : Fits casts isCast a d) : Fits casts' isCast a d := by
    cases isCast
    · exact hf
    · exact hc _ hf
  exact ⟨hd _ h.root, hfits h.left, hfits h.right⟩

/-- What casts reach depends on which definitions and which casts there are. -/
theorem grown_iff {casts casts' : List ImplicitCast} {ds ds' : List Variant}
    (hc : ∀ c, c ∈ casts ↔ c ∈ casts') (hd : ∀ d, d ∈ ds ↔ d ∈ ds') {v : Variant} :
    Grown casts ds v ↔ Grown casts' ds' v :=
  ⟨.mono (fun c => (hc c).1) fun d => (hd d).1, .mono (fun c => (hc c).2) fun d => (hd d).2⟩

end Variant

theorem mem_casts {s : Snapshot} {c : ImplicitCast} :
    c ∈ s.casts ↔ ∃ r ∈ s.rows.casts, ImplicitCast.ofRow? s.types ImplicitCast.excludedPairs r = some c :=
  ImplicitCast.mem_ofRows

theorem Variant.mem_definitions {s : Snapshot} {types : Classification} {allowed : List String}
    {d : Variant} :
    d ∈ definitions s types allowed ↔
      (∃ r ∈ s.rows.operators, ofOperator? types r = some d) ∨
        ∃ p ∈ s.rows.procs, p.name ∈ allowed ∧ ofProc? types p = some d := by
  rw [definitions, List.mem_append, infixDefinitions, functionDefinitions, List.mem_eraseDups,
    List.mem_eraseDups, List.mem_filterMap, List.mem_filterMap]
  simp only [List.mem_filter, decide_eq_true_eq, and_assoc]

/-! ## Snapshots with the same functions -/

/-- `t` has the procedures, operators and casts of `s`, with identifiers changed by `f`. -/
structure Snapshot.SameFunctions (f : Renumbering) (s t : Snapshot) : Prop where
  scalarName? : ∀ id, t.types.scalarName? (f id) = s.types.scalarName? id
  aggregate? : ∀ id, t.aggregate? (f id) = (s.aggregate? id).map (.renumber f)
  procs : t.rows.procs.Perm (s.rows.procs.map (.renumber f))
  operators : t.rows.operators.Perm (s.rows.operators.map (.renumber f))
  casts : t.rows.casts.Perm (s.rows.casts.map (.renumber f))

namespace Snapshot.SameFunctions

variable {f : Renumbering} {s t : Snapshot}

/-- Snapshots that share the rows that functions come from have the same functions. -/
theorem of_rows_eq (types : t.rows.types = s.rows.types) (aggregates : t.rows.aggregates = s.rows.aggregates)
    (procs : t.rows.procs = s.rows.procs) (operators : t.rows.operators = s.rows.operators)
    (casts : t.rows.casts = s.rows.casts) : SameFunctions .refl s t where
  scalarName? id := by
    unfold Snapshot.types
    rw [types]
    rfl
  aggregate? id := by
    rw [aggregate?_eq, aggregate?_eq, aggregates]
    simp
  procs := by simp [procs]
  operators := by simp [operators]
  casts := by simp [casts]

theorem ofRow?_eq (h : SameFunctions f s t) (excluded : List (String × String)) (r : CastRow) :
    ImplicitCast.ofRow? t.types excluded (r.renumber f) = ImplicitCast.ofRow? s.types excluded r := by
  simp only [ImplicitCast.ofRow?, CastRow.renumber, h.scalarName?]

theorem ofOperator?_eq (h : SameFunctions f s t) (r : OperatorRow) :
    Variant.ofOperator? t.types (r.renumber f) = Variant.ofOperator? s.types r := by
  simp only [Variant.ofOperator?, OperatorRow.renumber, h.scalarName?]

theorem ofProc?_eq (h : SameFunctions f s t) (p : ProcRow) :
    Variant.ofProc? t.types (p.renumber f) = Variant.ofProc? s.types p := by
  have hplain : Variant.isPlainFunction (p.renumber f) = Variant.isPlainFunction p := by
    have hvariadic : decide (f p.variadic = 0) = decide (p.variadic = 0) :=
      decide_eq_decide.2 f.eq_zero_iff
    show (decide (p.kind = "f") && decide (f p.variadic = 0) && decide (p.defaults = 0)) = _
    rw [hvariadic]
    rfl
  have hreturn : t.types.scalarName? (p.renumber f).returnType = s.types.scalarName? p.returnType :=
    h.scalarName? p.returnType
  unfold Variant.ofProc?
  rw [hplain, hreturn]
  simp only [ProcRow.renumber]
  rcases p.argumentTypes with _ | ⟨a, _ | ⟨b, _ | ⟨c, rest⟩⟩⟩
  · rfl
  · rfl
  · simp only [List.map_cons, List.map_nil, h.scalarName?]
  · rfl

theorem listed?_eq (h : SameFunctions f s t) (p : ProcRow) :
    Aggregate.listed? t (p.renumber f) = Aggregate.listed? s p := by
  have hplain : Aggregate.isPlain t (p.renumber f) = Aggregate.isPlain s p := by
    show (t.aggregate? (f p.oid)).any _ = (s.aggregate? p.oid).any _
    rw [h.aggregate?]
    cases s.aggregate? p.oid <;> rfl
  unfold Aggregate.listed? Aggregate.ofProc?
  rw [hplain]
  simp only [ProcRow.renumber]
  rcases p.argumentTypes with _ | ⟨a, _ | ⟨b, rest⟩⟩
  · rfl
  · simp only [List.map_cons, List.map_nil, h.scalarName?]
    cases Aggregate.isPlain s p
    · rfl
    · cases s.types.scalarName? a with
      | none => rfl
      | some argument => cases s.types.scalarName? p.returnType <;> rfl
  · rfl

theorem mem_casts_iff (h : SameFunctions f s t) (c : ImplicitCast) : c ∈ t.casts ↔ c ∈ s.casts := by
  simp only [mem_casts, h.casts.mem_iff, List.mem_map, exists_exists_and_eq_and,
    h.ofRow?_eq]

theorem mem_definitions_iff (h : SameFunctions f s t) {allowed allowed' : List String}
    (ha : ∀ name, name ∈ allowed' ↔ name ∈ allowed) (d : Variant) :
    d ∈ Variant.definitions t t.types allowed' ↔ d ∈ Variant.definitions s s.types allowed := by
  have hname (p : ProcRow) : (p.renumber f).name = p.name := rfl
  simp only [Variant.mem_definitions, h.operators.mem_iff, h.procs.mem_iff, List.mem_map,
    exists_exists_and_eq_and, h.ofOperator?_eq, h.ofProc?_eq, hname, ha]

theorem aggregates_eq (h : SameFunctions f s t) (o p : Options) :
    (buildSchema t p).aggregates = (buildSchema s o).aggregates := by
  have hentries : s.rows.procs.filterMap (Aggregate.listed? s) =
      (s.rows.procs.map (.renumber f)).filterMap (Aggregate.listed? t) := by
    rw [List.filterMap_map]
    exact List.filterMap_congr fun p _ => (h.listed?_eq p).symm
  refine Aggregate.aggregates_buildSchema ?_
  rw [hentries]
  exact h.procs.filterMap _

/-- The comparison functions do not depend on how the sets on the way to them are listed. -/
theorem exposed_eq (h : SameFunctions f s t) {o p : Options}
    (hm : p.operatorMappings = o.operatorMappings)
    (ha : ∀ name, name ∈ p.comparisonFunctions ↔ name ∈ o.comparisonFunctions)
    {casts : List ImplicitCast} (hc : ∀ c, c ∈ casts ↔ c ∈ t.casts)
    {ds : List Variant} (hd : ∀ d, d ∈ ds ↔ d ∈ Variant.definitions t t.types p.comparisonFunctions)
    {vs : List Variant} (hv : ∀ v, v ∈ vs ↔ v ∈ Variant.extend casts ds) :
    Variant.exposed vs p.operatorMappings = (buildSchema s o).comparisons := by
  let definitions := Variant.definitions s s.types o.comparisonFunctions
  have hcasts (c : ImplicitCast) : c ∈ casts ↔ c ∈ s.casts := (hc c).trans (h.mem_casts_iff c)
  have hds (d : Variant) : d ∈ ds ↔ d ∈ definitions := (hd d).trans (h.mem_definitions_iff ha d)
  have hdeclared : ∀ d ∈ definitions, d.IsDeclared := fun d => Variant.isDeclared_of_mem_definitions
  have hne : ∀ c ∈ s.casts, c.source ≠ c.target := fun c => ImplicitCast.source_ne_target
  have hgrown (v : Variant) : v ∈ vs ↔ Variant.Grown s.casts definitions v := by
    rw [hv, Variant.mem_extend_definitions fun d hm => hdeclared d ((hds d).1 hm)]
    exact Variant.grown_iff hcasts hds
  rw [hm]
  exact Variant.exposed_eq hne hgrown (fun v => Variant.mem_extend_definitions hdeclared) _

theorem comparisons_eq (h : SameFunctions f s t) (o : Options) :
    (buildSchema t o).comparisons = (buildSchema s o).comparisons :=
  h.exposed_eq rfl (fun _ => .rfl) (fun _ => .rfl) (fun _ => .rfl) fun _ => .rfl

end Snapshot.SameFunctions

end CatalogSchema
