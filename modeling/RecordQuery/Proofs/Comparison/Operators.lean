import Mathlib.Logic.ExistsUnique
import RecordQuery.Proofs.Equality

/-!
# The comparisons with one operand

Where the order of a value and an operand is defined, every comparison is read off it, equality and
inequality included (`satisfies_iff`); where it is not, only these two can hold. So the six
comparisons of a value with an operand never contradict each other (`comparisons_coherent`), and
earlier and later than an instant are less and greater than it (`test_before_eq`, `test_after_eq`).
-/

namespace RecordQuery

/-! ## Operators and orders -/

namespace Operator

def strict : List Operator := [lt, eq, gt]

def ofOrdering : Ordering → Operator
  | .lt => lt
  | .eq => eq
  | .gt => gt

theorem ofOrdering_mem_strict (ord : Ordering) : ofOrdering ord ∈ strict := by
  cases ord <;> decide

theorem accepts_strict_iff {op : Operator} (hop : op ∈ strict) (ord : Ordering) :
    op.accepts ord = true ↔ op = ofOrdering ord := by
  revert op
  cases ord <;> decide

def ordered : List Operator := [lt, lte, gt, gte]

end Operator

/-! ## Values -/

namespace Value

def Satisfies (v : Value) (op : Operator) (o : Operand) : Prop :=
  (Condition.compare op o).test v = true

theorem equals_of_compare {a b : Value} {ord : Ordering} (h : a.compare b = some ord) :
    a.equals b = some (ord == .eq) := by
  obtain ⟨x, hx, h⟩ := Option.bind_eq_some_iff.1 h
  obtain ⟨y, hy, h⟩ := Option.bind_eq_some_iff.1 h
  have hequals : a.equals b = (x.compareConcrete y).map (· == .eq) := by
    rw [equals_eq, hx, hy]
    -- sequences and mappings are equal by other rules, but they have no order
    cases x <;> cases y <;> first | rfl | cases h
  rw [hequals, h]
  rfl

variable {v : Value} {o : Operand} {ord : Ordering}

theorem satisfies_iff (h : v.compare o.toValue = some ord) (op : Operator) :
    v.Satisfies op o ↔ op.accepts ord = true := by
  have hequals := equals_of_compare h
  have htest : (Condition.compare op o).test v = op.accepts ord := by
    cases op with
    | eq =>
        change (v.equals o.toValue == some true) = _
        rw [hequals]
        cases ord <;> rfl
    | ne =>
        change (v.equals o.toValue == some false) = _
        rw [hequals]
        cases ord <;> rfl
    | _ =>
        change (v.compare o.toValue).any _ = _
        rw [h]
        rfl
  rw [Satisfies, htest]

theorem not_satisfies_of_compare_eq_none (h : v.compare o.toValue = none) :
    ∀ op ∈ Operator.ordered, ¬ v.Satisfies op o := by
  have hnone : ∀ f : Ordering → Bool, ¬ (v.compare o.toValue).any f = true := by simp [h]
  simp only [Operator.ordered, List.forall_mem_cons, List.not_mem_nil, false_imp_iff, implies_true,
    and_true]
  exact ⟨hnone _, hnone _, hnone _, hnone _⟩

theorem not_satisfies_ne_and_eq : ¬ (v.Satisfies .ne o ∧ v.Satisfies .eq o) := by
  rintro ⟨hne, heq⟩
  have hfalse : v.equals o.toValue = some false := beq_iff_eq.1 hne
  have htrue : v.equals o.toValue = some true := beq_iff_eq.1 heq
  cases htrue.symm.trans hfalse

/-! ## Coherence -/

/-- The comparisons of a value with an operand agree with each other and with the order. -/
structure Coherent (v : Value) (o : Operand) : Prop where
  strict_unique : ∀ op ∈ Operator.strict, ∀ op' ∈ Operator.strict,
    v.Satisfies op o → v.Satisfies op' o → op = op'
  of_lt : v.Satisfies .lt o → v.Satisfies .lte o ∧ v.Satisfies .ne o
  of_gt : v.Satisfies .gt o → v.Satisfies .gte o ∧ v.Satisfies .ne o
  not_ne_and_eq : ¬ (v.Satisfies .ne o ∧ v.Satisfies .eq o)
  lte_and_gte_iff : v.Satisfies .lte o ∧ v.Satisfies .gte o ↔ v.compare o.toValue = some .eq
  eq_of_lte_of_gte : v.Satisfies .lte o → v.Satisfies .gte o → v.Satisfies .eq o
  of_order : v.compare o.toValue ≠ none →
    (∃! op, op ∈ Operator.strict ∧ v.Satisfies op o) ∧
    (v.Satisfies .lte o ↔ v.Satisfies .lt o ∨ v.Satisfies .eq o) ∧
    (v.Satisfies .gte o ↔ v.Satisfies .gt o ∨ v.Satisfies .eq o) ∧
    (v.Satisfies .ne o ↔ v.Satisfies .lt o ∨ v.Satisfies .gt o)
  of_no_order : v.compare o.toValue = none → ∀ op ∈ Operator.ordered, ¬ v.Satisfies op o

theorem existsUnique_strict (h : v.compare o.toValue = some ord) :
    ∃! op, op ∈ Operator.strict ∧ v.Satisfies op o := by
  refine ⟨Operator.ofOrdering ord, ⟨Operator.ofOrdering_mem_strict ord, ?_⟩, ?_⟩
  · rw [satisfies_iff h, Operator.accepts_strict_iff (Operator.ofOrdering_mem_strict ord)]
  · rintro op ⟨hop, hsat⟩
    exact (Operator.accepts_strict_iff hop ord).1 ((satisfies_iff h op).1 hsat)

theorem coherent_of_order (h : v.compare o.toValue = some ord) : Coherent v o where
  strict_unique op hop op' hop' hsat hsat' :=
    (existsUnique_strict h).unique ⟨hop, hsat⟩ ⟨hop', hsat'⟩
  of_lt := by
    simp only [satisfies_iff h]
    cases ord <;> decide
  of_gt := by
    simp only [satisfies_iff h]
    cases ord <;> decide
  not_ne_and_eq := not_satisfies_ne_and_eq
  lte_and_gte_iff := by
    simp only [satisfies_iff h, h]
    cases ord <;> decide
  eq_of_lte_of_gte := by
    simp only [satisfies_iff h]
    cases ord <;> decide
  of_order _ := by
    refine ⟨existsUnique_strict h, ?_⟩
    simp only [satisfies_iff h]
    cases ord <;> decide
  of_no_order hnone := by cases h.symm.trans hnone

/-- Without an order only equality and inequality are left, which exclude each other. -/
theorem coherent_of_no_order (h : v.compare o.toValue = none) : Coherent v o := by
  have hnot := not_satisfies_of_compare_eq_none h
  have hlt : ¬ v.Satisfies .lt o := hnot .lt (by decide)
  have hlte : ¬ v.Satisfies .lte o := hnot .lte (by decide)
  have hgt : ¬ v.Satisfies .gt o := hnot .gt (by decide)
  have hstrict : ∀ op ∈ Operator.strict, v.Satisfies op o → op = .eq := by
    simp [Operator.strict, hlt, hgt]
  exact {
    strict_unique op hop op' hop' hsat hsat' :=
      (hstrict op hop hsat).trans (hstrict op' hop' hsat').symm
    of_lt hsat := absurd hsat hlt
    of_gt hsat := absurd hsat hgt
    not_ne_and_eq := not_satisfies_ne_and_eq
    lte_and_gte_iff := by simp [hlte, h]
    eq_of_lte_of_gte hsat := absurd hsat hlte
    of_order hsome := absurd h hsome
    of_no_order _ := hnot }

theorem coherent (v : Value) (o : Operand) : Coherent v o := by
  cases h : v.compare o.toValue with
  | none => exact coherent_of_no_order h
  | some ord => exact coherent_of_order h

/-! ## Instants -/

theorem compare_timestamp (v : Value) (bound : Instant) :
    v.compare (.timestamp bound) = (v.deref.bind Condition.instant?).map (·.compare bound) := by
  unfold compare
  cases v.deref with
  | none => rfl
  | some x => cases x <;> rfl

end Value

namespace Condition

theorem test_before (bound : Instant) (v : Value) : (before bound).test v =
    (v.deref.bind instant?).any fun t => t.compare bound == .lt := by
  change v.deref.any (before bound).testConcrete = _
  cases v.deref with
  | none => rfl
  | some x => cases x <;> rfl

theorem test_after (bound : Instant) (v : Value) : (after bound).test v =
    (v.deref.bind instant?).any fun t => t.compare bound == .gt := by
  change v.deref.any (after bound).testConcrete = _
  cases v.deref with
  | none => rfl
  | some x => cases x <;> rfl

theorem test_before_eq (bound : Instant) (v : Value) :
    (before bound).test v = (compare .lt (.timestamp bound)).test v := by
  change _ = (v.compare (.timestamp bound)).any Operator.lt.accepts
  rw [test_before, Value.compare_timestamp, Option.any_map]
  rfl

theorem test_after_eq (bound : Instant) (v : Value) :
    (after bound).test v = (compare .gt (.timestamp bound)).test v := by
  change _ = (v.compare (.timestamp bound)).any Operator.gt.accepts
  rw [test_after, Value.compare_timestamp, Option.any_map]
  rfl

/-- The six comparisons of a value with an operand are coherent, and the tests for earlier and later
than an instant are those for less and greater. -/
theorem comparisons_coherent (v : Value) :
    (∀ o : Operand, v.Coherent o) ∧
    ∀ bound : Instant,
      (before bound).test v = (compare .lt (.timestamp bound)).test v ∧
      (after bound).test v = (compare .gt (.timestamp bound)).test v :=
  ⟨v.coherent, fun bound => ⟨test_before_eq bound v, test_after_eq bound v⟩⟩

end Condition

end RecordQuery
