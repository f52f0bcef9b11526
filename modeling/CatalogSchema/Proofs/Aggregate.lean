import CatalogSchema.Proofs.Catalog.Lookup
import CatalogSchema.Proofs.Settlement
import CatalogSchema.Schema.Resolution

/-!
# Which aggregate is kept

Procedures may share their name and the names of their argument types without being one procedure: types
go by name, and several have one. The schema has one aggregate for them all, with the least of their
result types (`Aggregate.result_is_least`). It is settled twice, once where the first of the sorted
candidates wins its key and once where the winners, sorted again, are written into the schema and the last
with a key would win; no key is left twice after the first, so the second changes nothing.
-/

namespace CatalogSchema

/-! ## Procedures that qualify -/

/-- The binding of a procedure as an aggregate; of several the last counts. -/
def CatalogRows.binding? (rows : CatalogRows) (proc : Int) : Option AggregateRow :=
  rows.aggregates.reverse.find? (·.proc = proc)

theorem Snapshot.aggregate?_eq_binding? (s : Snapshot) (proc : Int) :
    s.aggregate? proc = s.rows.binding? proc := by
  rw [aggregate?_eq, OrderedMap.find?_indexBy]
  rfl

/-- A procedure is bound as an aggregate without direct arguments and goes from one scalar type to
another. -/
structure ProcRow.IsAggregate (s : Snapshot) (types : Classification) (p : ProcRow)
    (argument result : String) : Prop where
  binding : ∃ b, s.rows.binding? p.oid = some b ∧ b.directArguments = 0
  argument : ∃ a, p.argumentTypes = [a] ∧ types.scalarName? a = some argument
  result : types.scalarName? p.returnType = some result

/-- Some procedure of the name is an aggregate from the one type to the other. -/
def Snapshot.HasAggregate (s : Snapshot) (argument name result : String) : Prop :=
  ∃ p ∈ s.rows.procs, p.name = name ∧ p.IsAggregate s s.types argument result

/-- The aggregate function of a name over an argument type. -/
def Metadata.aggregate? (m : Metadata) (argument name : String) : Option AggregateFunction :=
  (m.aggregates.find? argument).bind (·.find? name)

namespace Aggregate

theorem isPlain_iff {s : Snapshot} {p : ProcRow} :
    isPlain s p ↔ ∃ b, s.rows.binding? p.oid = some b ∧ b.directArguments = 0 := by
  rw [isPlain, s.aggregate?_eq_binding?, Option.any_eq_true]
  simp only [decide_eq_true_eq]

theorem ofProc?_eq_some_iff {s : Snapshot} {types : Classification} {p : ProcRow} {a : Aggregate} :
    ofProc? s types p = some a ↔ p.IsAggregate s types a.argumentType a.returnType ∧
      a.proc = p.oid ∧ a.name = p.name ∧ a.schema = p.schema := by
  constructor
  · intro h
    unfold ofProc? at h
    split at h
    · rename_i hplain
      split at h
      · rename_i argument hargument
        simp only [Option.bind_eq_bind, Option.bind_eq_some_iff, Option.some.injEq] at h
        obtain ⟨argumentType, hargumentType, result, hresult, rfl⟩ := h
        exact ⟨⟨isPlain_iff.1 hplain, ⟨argument, hargument, hargumentType⟩, hresult⟩, rfl, rfl, rfl⟩
      · cases h
    · cases h
  · rintro ⟨⟨hbinding, ⟨argument, hargument, hargumentType⟩, hresult⟩, hproc, hname, hschema⟩
    rw [ofProc?, if_pos (isPlain_iff.2 hbinding), hargument]
    simp only [hargumentType, hresult, Option.bind_eq_bind, Option.bind_some]
    rw [← hproc, ← hname, ← hschema]

/-- The procedures that qualify, as aggregates. -/
def candidates (s : Snapshot) : List Aggregate := s.rows.procs.filterMap (ofProc? s s.types)

theorem hasAggregate_iff {s : Snapshot} {argument name result : String} :
    s.HasAggregate argument name result ↔
      ∃ a ∈ candidates s, a.key = (argument, name) ∧ a.returnType = result := by
  constructor
  · rintro ⟨p, hp, rfl, hq⟩
    refine ⟨⟨p.oid, p.name, p.schema, argument, result⟩, List.mem_filterMap.2 ⟨p, hp, ?_⟩, rfl, rfl⟩
    exact ofProc?_eq_some_iff.2 ⟨hq, rfl, rfl, rfl⟩
  · rintro ⟨a, ha, hkey, rfl⟩
    obtain ⟨p, hp, hap⟩ := List.mem_filterMap.1 ha
    obtain ⟨hq, -, hname, -⟩ := ofProc?_eq_some_iff.1 hap
    obtain ⟨rfl, rfl⟩ := Prod.mk.inj hkey
    exact ⟨p, hp, hname.symm, hq⟩

/-! ## The candidate that wins -/

instance : Std.TransCmp compareCandidates :=
  inferInstanceAs (Std.TransCmp (compareLex (compareOn argumentType) (byTwo name returnType)))

/-- Candidates for one key are told apart by their results. -/
theorem compareCandidates_of_key {a b : Aggregate} (h : a.key = b.key) :
    compareCandidates a b = compare a.returnType b.returnType := by
  obtain ⟨hargument, hname⟩ := Prod.mk.inj h
  simp only [compareCandidates, byTwo, compareLex, compareOn, hargument, hname,
    Std.ReflOrd.compare_self, Ordering.eq_then]

/-- A key is won by the first of its candidates with the least result. -/
theorem find?_ofSnapshot_eq_some_iff {s : Snapshot} {key : String × String} {a : Aggregate} :
    (ofSnapshot s s.types).find? (·.key = key) = some a ↔
      IsFirst compareCandidates a ((candidates s).filter (·.key = key)) := by
  rw [ofSnapshot, bids, Bid.find?_winners_settle, if_neg (by simp)]
  exact find?_sortBy_eq_some_iff

/-- What is written into the schema under a key is what has won the key. -/
theorem aggregate?_buildSchema (s : Snapshot) (o : Options) (argument name : String) :
    (buildSchema s o).aggregate? argument name =
      ((ofSnapshot s s.types).find? (·.key = (argument, name))).map (⟨·.returnType⟩) := by
  -- no key is left twice, so neither the second sort nor the order of writing matters
  have hkeys : ((ofSnapshot s s.types).map key).Nodup := Bid.nodup_winners_settle _
  have hperm := perm_sortBy (byTwo argumentType Aggregate.name) (ofSnapshot s s.types)
  have hentries : (((sortBy (byTwo argumentType Aggregate.name) (ofSnapshot s s.types)).map entry).map
      fun e => (e.1, e.2.1)).Nodup := by
    rw [List.map_map]
    exact (hperm.map key).nodup_iff.2 hkeys
  show ((functions (ofSnapshot s s.types)).find? argument).bind (·.find? name) = _
  rw [functions, OrderedMap.find?_find?_nest hentries, List.find?_map, Option.map_map,
    ← find?_key_of_perm hperm hkeys]
  rfl

/-- A key has a winner when it has a candidate. -/
theorem exists_aggregate?_of_hasAggregate {s : Snapshot} (o : Options) {argument name result : String}
    (h : s.HasAggregate argument name result) :
    ∃ f, (buildSchema s o).aggregate? argument name = some f := by
  obtain ⟨a, ha, hkey, -⟩ := hasAggregate_iff.1 h
  have hmem : a ∈ (candidates s).filter (·.key = (argument, name)) :=
    List.mem_filter.2 ⟨ha, decide_eq_true hkey⟩
  obtain ⟨winner, hwinner⟩ := exists_isFirst compareCandidates (List.ne_nil_of_mem hmem)
  rw [aggregate?_buildSchema, find?_ofSnapshot_eq_some_iff.2 hwinner]
  exact ⟨_, rfl⟩

/-- What a schema holds has a procedure, and none for the same key has a smaller result. -/
theorem least_of_aggregate? {s : Snapshot} {o : Options} {argument name : String}
    {f : AggregateFunction} (h : (buildSchema s o).aggregate? argument name = some f) :
    s.HasAggregate argument name f.returnType ∧
      ∀ result, s.HasAggregate argument name result → (compare f.returnType result).isLE := by
  rw [aggregate?_buildSchema] at h
  obtain ⟨winner, hwinner, rfl⟩ := Option.map_eq_some_iff.1 h
  have hfirst := find?_ofSnapshot_eq_some_iff.1 hwinner
  obtain ⟨hm, hk⟩ := List.mem_filter.1 hfirst.mem
  have hkey : winner.key = (argument, name) := of_decide_eq_true hk
  refine ⟨hasAggregate_iff.2 ⟨winner, hm, hkey, rfl⟩, fun result hresult => ?_⟩
  obtain ⟨a, ha, hakey, rfl⟩ := hasAggregate_iff.1 hresult
  have hle := hfirst.isLE (List.mem_filter.2 ⟨ha, decide_eq_true hakey⟩)
  rwa [compareCandidates_of_key (hkey.trans hakey.symm)] at hle

/-- A schema holds an aggregate function just when some procedure qualifies for it, and then with the least
of the results of those that do. What the first-come choice among the sorted candidates keeps has
distinct keys, and it is what the schema holds. -/
theorem result_is_least (s : Snapshot) (o : Options) (argument name : String) :
    (((buildSchema s o).aggregate? argument name).isSome ↔
      ∃ result, s.HasAggregate argument name result) ∧
    (∀ f, (buildSchema s o).aggregate? argument name = some f ↔
      s.HasAggregate argument name f.returnType ∧
        ∀ result, s.HasAggregate argument name result → (compare f.returnType result).isLE) ∧
    ((ofSnapshot s s.types).map key).Nodup ∧
    (buildSchema s o).aggregate? argument name =
      ((ofSnapshot s s.types).find? (·.key = (argument, name))).map (⟨·.returnType⟩) := by
  refine ⟨?_, fun f => ⟨least_of_aggregate?, ?_⟩, Bid.nodup_winners_settle _,
    aggregate?_buildSchema s o argument name⟩
  · rw [Option.isSome_iff_exists]
    constructor
    · rintro ⟨f, hf⟩
      exact ⟨f.returnType, (least_of_aggregate? hf).1⟩
    · rintro ⟨result, hresult⟩
      exact exists_aggregate?_of_hasAggregate o hresult
  · rintro ⟨hf, hleast⟩
    obtain ⟨g, hg⟩ := exists_aggregate?_of_hasAggregate o hf
    obtain ⟨hg', hgleast⟩ := least_of_aggregate? hg
    -- the winner's result is least as well, and of two least ones neither is smaller
    have hresult : g.returnType = f.returnType :=
      Std.LawfulEqOrd.eq_of_compare (Std.OrientedCmp.isLE_antisymm (hgleast _ hf) (hleast _ hg'))
    rw [hg]
    exact congrArg (fun result => some (AggregateFunction.mk result)) hresult

end Aggregate

end CatalogSchema
