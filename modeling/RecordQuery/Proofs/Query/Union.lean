import RecordQuery.Proofs.Order.Stability
import RecordQuery.Proofs.Query.Reading
import RecordQuery.Proofs.Query.Results

/-!
# Parameters put together

Parameters without a key in common compile together exactly when each of them compiles
(`exists_compile_union_iff`), and the query of both asks for the filters of both
(`holds_predicate_union`). Adding parameters that are all filters keeps the order, so the result is
what the added filters leave of the result before (`applyBy_union`).
-/

namespace RecordQuery.Query

variable {r : Registry} {options : Options} {p p' : Params} {q q' u : Query} {α : Type}
  {record : α → Record} {items : List α}

/-! ## Compiling -/

theorem exists_compile_union_iff (hkeys : ∀ key ∈ p.keys, key ∉ p'.keys) :
    (∃ u, compile r (p.union p') options = .ok u) ↔
      (∃ q, compile r p options = .ok q) ∧ ∃ q', compile r p' options = .ok q' := by
  simp only [exists_compile_eq_ok_iff, Params.mem_firstValues_union hkeys, or_imp, forall_and]

theorem mem_filters_union_iff (hkeys : ∀ key ∈ p.keys, key ∉ p'.keys)
    (hu : compile r (p.union p') options = .ok u) (hq : compile r p options = .ok q)
    (hq' : compile r p' options = .ok q') {f : Filter} :
    f ∈ u.filters ↔ f ∈ q.filters ∨ f ∈ q'.filters := by
  simp only [mem_filters_iff hu, mem_filters_iff hq, mem_filters_iff hq',
    Params.mem_firstValues_union hkeys, or_and_right, exists_or]

/-- The filters stand in the order of all keys, which does not matter for their conjunction. -/
theorem holds_predicate_union (hkeys : ∀ key ∈ p.keys, key ∉ p'.keys)
    (hu : compile r (p.union p') options = .ok u) (hq : compile r p options = .ok q)
    (hq' : compile r p' options = .ok q') (rec : Record) :
    u.predicate.holds rec = (q.predicate.holds rec && q'.predicate.holds rec) := by
  rw [Bool.eq_iff_iff, Bool.and_eq_true]
  simp only [holds_predicate_iff, mem_filters_union_iff hkeys hu hq hq', or_imp, forall_and]

theorem sort_union (hsort : sortKey ∉ p'.keys) (hu : compile r (p.union p') options = .ok u)
    (hq : compile r p options = .ok q) : u.sort = q.sort := by
  have hget : (p.union p').get? sortKey = p.get? sortKey := by
    rw [Params.get?_union, Params.get?_eq_none hsort, Option.or_none]
  have hread := (FieldReads.congr hget).1 (readFrom_of_compile hu).sort
  exact hread.unique (readFrom_of_compile hq).sort

/-! ## Applying -/

def SortsIntegers (q : Query) (record : α → Record) (items : List α) : Prop :=
  ∀ order, q.sort = some order → ∀ item ∈ items, ∀ n,
    Order.key? (record item) order.field = some (.number n) → n.isFloat = false

/-- A query that asks for more in the same order finds what is left of the result. -/
theorem applyBy_eq_filterBy {P : Predicate} (hsort : u.sort = q.sort)
    (hholds : ∀ rec, u.predicate.holds rec = (q.predicate.holds rec && P.holds rec))
    (hintegers : q.SortsIntegers record items) :
    u.applyBy record items = P.filterBy record (q.applyBy record items) := by
  have hmatched : u.predicate.filterBy record items =
      P.filterBy record (q.predicate.filterBy record items) := by
    unfold Predicate.filterBy
    rw [List.filter_filter]
    exact List.filter_congr fun item _ => by rw [hholds, Bool.and_comm]
  unfold applyBy
  rw [hmatched, hsort]
  cases hs : q.sort with
  | none => rfl
  | some order =>
      have hunblurred := Order.unblurred_of_integers (hintegers order hs)
      have hsub : q.predicate.filterBy record items ⊆ items := List.filter_subset_self ..
      exact (Order.filter_sortBy (hunblurred.subset hsub) _).symm

/-- Parameters that are put together all have to hold, and those that are no order and no page leave
the order of the result as it is. -/
theorem applyBy_union (r : Registry) (options : Options) {p p' : Params}
    (hkeys : ∀ key ∈ p.keys, key ∉ p'.keys) (hreserved : ∀ key ∈ p'.keys, ¬ IsReserved key) :
    ((∃ u, compile r (p.union p') options = .ok u) ↔
      (∃ q, compile r p options = .ok q) ∧ ∃ q', compile r p' options = .ok q') ∧
    ∀ {u q q' : Query}, compile r (p.union p') options = .ok u → compile r p options = .ok q →
      compile r p' options = .ok q' → ∀ {α : Type} (record : α → Record) (items : List α),
        q.SortsIntegers record items →
          u.applyBy record items = q'.predicate.filterBy record (q.applyBy record items) := by
  refine ⟨exists_compile_union_iff hkeys, fun hu hq hq' α record items hintegers => ?_⟩
  have hsort : sortKey ∉ p'.keys := fun hmem => hreserved _ hmem (.inl rfl)
  exact applyBy_eq_filterBy (sort_union hsort hu hq) (holds_predicate_union hkeys hu hq hq')
    hintegers

/-- The keys of the added filter and of the others alternate. Among the ages are a tie of two widths
and a null. -/
theorem applyBy_union_names :
    let r : Registry := ⟨[
      { path := .parse "age", kind := .optional (.integer .u8), sortable := true },
      { path := .parse "name", kind := .string, filterable := true }]⟩
    let p := Params.ofPairs [("name_ne", "Di"), ("sort", "-age")]
    let p' := Params.ofPairs [("name_gt", "Ana"), ("name_lt", "Gil")]
    let record : String × Value → Record := fun (name, age) =>
      ⟨.never, [("name", .string name), ("age", age)]⟩
    let items : List (String × Value) := [
      ("Ana", .number (.integer ⟨.u8, 30, by decide⟩)), ("Bo", .null),
      ("Cy", .present (.number (.integer ⟨.u8, 20, by decide⟩))),
      ("Di", .number (.integer ⟨.u8, 20, by decide⟩)),
      ("Eve", .number (.integer ⟨.i64, 30, by decide⟩)),
      ("Flo", .number (.integer ⟨.u8, 30, by decide⟩))]
    (∀ key ∈ p.keys, key ∉ p'.keys) ∧ (∀ key ∈ p'.keys, ¬ IsReserved key) ∧
      ∃ u q q', compile r (p.union p') {} = .ok u ∧ compile r p {} = .ok q ∧
        compile r p' {} = .ok q' ∧ q.SortsIntegers record items ∧
        (q.applyBy record items).map (·.1) = ["Ana", "Eve", "Flo", "Cy", "Bo"] ∧
        u.applyBy record items = q'.predicate.filterBy record (q.applyBy record items) := by
  intro r p p' record items
  have hkeys : ∀ key ∈ p.keys, key ∉ p'.keys := by decide +kernel
  have hreserved : ∀ key ∈ p'.keys, ¬ IsReserved key := by decide +kernel
  obtain ⟨u, hu⟩ : ∃ u, compile r (p.union p') {} = .ok u := ⟨_, rfl⟩
  obtain ⟨q, hq, hsort, hresult⟩ : ∃ q, compile r p {} = .ok q ∧
      q.sort = some ⟨.parse "age", .descending⟩ ∧
      (q.applyBy record items).map (·.1) = ["Ana", "Eve", "Flo", "Cy", "Bo"] :=
    ⟨_, rfl, rfl, by decide +kernel⟩
  obtain ⟨q', hq'⟩ : ∃ q', compile r p' {} = .ok q' := ⟨_, rfl⟩
  have hintegers : q.SortsIntegers record items := by
    intro order horder item hitem n hn
    obtain rfl := Option.some.inj (hsort.symm.trans horder)
    simp only [items, List.mem_cons, List.not_mem_nil, or_false] at hitem
    rcases hitem with rfl | rfl | rfl | rfl | rfl | rfl <;> cases hn <;> rfl
  obtain ⟨-, happly⟩ := applyBy_union r {} hkeys hreserved
  exact ⟨hkeys, hreserved, u, q, q', hu, hq, hq', hintegers, hresult,
    happly hu hq hq' record items hintegers⟩

end RecordQuery.Query
