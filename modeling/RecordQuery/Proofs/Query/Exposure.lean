import RecordQuery.Proofs.Query.Filters
import RecordQuery.Proofs.Query.Reading

/-!
# What a compiled query touches

A compiled query filters on exposed fields only, each filter well typed for the descriptor that its
key names, and sorts by an exposed field or in the default order (`compile_exposed`).
-/

namespace RecordQuery.Query

variable {r : Registry} {options : Options} {p : Params} {q : Query}

/-- A live key that is not reserved names a filterable descriptor and an operator, and the filter
is a well-typed one on that descriptor's field. -/
def FilterExposed (r : Registry) (p : Params) (f : Filter) : Prop :=
  ∃ key raw column d, p.get? key = some raw ∧ ¬ IsReserved key ∧
    Operator.splitKey key = (column, f.op) ∧ r.filterable? column = some d ∧
    f.path = d.path ∧ f.WellTyped d

/-- The order is the default one when no sort is asked for, and otherwise goes by the field of the
sortable descriptor that the sort parameter names. -/
def SortExposed (r : Registry) (options : Options) (p : Params) (sort : Option Order) : Prop :=
  match p.get? sortKey with
  | none => sort = options.defaultSort
  | some raw => ∃ d, r.sortable? (Order.parse raw).field.display = some d ∧
      sort = some ⟨d.path, (Order.parse raw).direction⟩

theorem filterExposed_of_mem (h : compile r p options = .ok q) {f : Filter} (hf : f ∈ q.filters) :
    FilterExposed r p f := by
  obtain ⟨⟨key, raw⟩, hm, hr, hread⟩ := (mem_filters_iff h).1 hf
  obtain ⟨d, v, hd, hv, rfl⟩ := Filter.ofParam_eq_ok_iff.1 hread
  exact ⟨key, raw, _, d, Params.mem_firstValues_iff.1 hm, hr, rfl, hd, rfl,
    Filter.wellTyped_of_readValue hv d.path⟩

theorem readSort_eq_ok_iff {raw : String} {o : Order} : readSort r raw = .ok o ↔
    ∃ d, r.sortable? (Order.parse raw).field.display = some d ∧
      o = ⟨d.path, (Order.parse raw).direction⟩ := by
  unfold readSort
  dsimp only
  cases r.sortable? (Order.parse raw).field.display <;> simp [eq_comm]

theorem sortExposed_of_compile (h : compile r p options = .ok q) :
    SortExposed r options p q.sort := by
  have hsort := (joinsKeys_of_compile h).sort
  unfold TakesField at hsort
  unfold SortExposed
  cases hraw : p.get? sortKey with
  | none =>
      rw [hraw] at hsort
      exact hsort
  | some raw =>
      rw [hraw] at hsort
      obtain ⟨q', hq', e⟩ := hsort
      rw [compileKey_eq, map_eq_ok_iff] at hq'
      obtain ⟨s, hs, rfl⟩ := hq'
      obtain ⟨o, ho, rfl⟩ := map_eq_ok_iff.1 hs
      obtain ⟨d, hd, rfl⟩ := readSort_eq_ok_iff.1 ho
      exact ⟨d, hd, e⟩

/-- A compiled query reaches fields through filterable and sortable descriptors only, with operands
of their kinds, and its filters never compare by an operator that is not an order or an equality. -/
theorem compile_exposed (fields : List Descriptor) (p : Params) (options : Options) {q : Query}
    (h : compile ⟨fields⟩ p options = .ok q) :
    (∀ f ∈ q.filters, FilterExposed ⟨fields⟩ p f) ∧
    SortExposed ⟨fields⟩ options p q.sort ∧
    (∀ f ∈ q.filters, ∀ op, f.toPredicate.Compares op →
      op ≠ .isIn ∧ op ≠ .contains ∧ op ≠ .between) := by
  refine ⟨fun f hf => filterExposed_of_mem h hf, sortExposed_of_compile h, fun f hf op hop => ?_⟩
  obtain ⟨-, -, -, d, -, -, -, -, -, hd⟩ := filterExposed_of_mem h hf
  exact Filter.not_compares_toPredicate hd hop

theorem compile_exposed_ages_and_tags :
    let fields : List Descriptor := [
      { path := .parse "age", kind := .integer .u8, filterable := true, sortable := true },
      { path := .parse "tags", kind := .sequence (.optional .string), column := some "tag",
        filterable := true }]
    let p := Params.ofPairs [("age_between", "18, 30"), ("sort", "-age"), ("tag_in", "a, b")]
    ∃ q, compile ⟨fields⟩ p {} = .ok q ∧ q.filters.length = 2 ∧
      (∀ f ∈ q.filters, FilterExposed ⟨fields⟩ p f) ∧ SortExposed ⟨fields⟩ {} p q.sort ∧
      (∀ f ∈ q.filters, ∀ op, f.toPredicate.Compares op →
        op ≠ .isIn ∧ op ≠ .contains ∧ op ≠ .between) := by
  intro fields p
  obtain ⟨q, hq, hlen⟩ : ∃ q, compile ⟨fields⟩ p {} = .ok q ∧ q.filters.length = 2 :=
    ⟨_, rfl, rfl⟩
  exact ⟨q, hq, hlen, compile_exposed fields p {} hq⟩

end RecordQuery.Query
