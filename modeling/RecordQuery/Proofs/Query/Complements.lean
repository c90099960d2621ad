import RecordQuery.Proofs.Query.Single
import RecordQuery.Proofs.Typed

/-!
# Operators that complete each other

Of an operator and its complement exactly one accepts an order. When text is read for a field of an
exact kind, every value of the field that is not null has an order to the operand, so the results of
the two operators part the records with such a value (`results_split`).
-/

namespace RecordQuery

/-! ## Complements -/

namespace Operator

def Complements (op op' : Operator) : Prop := ∀ o, op.accepts o = !op'.accepts o

theorem Complements.symm {op op' : Operator} (h : op.Complements op') : op'.Complements op :=
  fun o => by rw [h o, Bool.not_not]

theorem Complements.compares {op op' : Operator} (h : op.Complements op') :
    op ≠ .isIn ∧ op ≠ .contains ∧ op ≠ .between := by
  have hlt := h .lt
  have heq := h .eq
  have hgt := h .gt
  revert hlt heq hgt
  cases op <;> cases op' <;> decide

theorem lt_complements_gte : Complements .lt .gte
  | .lt | .eq | .gt => rfl

theorem gt_complements_lte : Complements .gt .lte
  | .lt | .eq | .gt => rfl

theorem eq_complements_ne : Complements .eq .ne
  | .lt | .eq | .gt => rfl

end Operator

namespace Query

variable {r : Registry} {options : Options} {column key key' raw : String} {op op' : Operator}
  {d : Descriptor} {o : Operand}

/-! ## Two comparisons of one record -/

section

variable {path : FieldPath} {rec : Record} {v : Value}

theorem holds_compare_iff (ho : o.toValue.IsScalar) (hv : rec.resolve path = .ok v) :
    (Predicate.compare path op o).holds rec = true ↔
      ∃ ord, v.compare o.toValue = some ord ∧ op.accepts ord = true := by
  change Clause.holds ⟨path, .compare op o⟩ rec = true ↔ _
  simp only [Clause.holds_iff, hv, Except.ok.injEq, exists_eq_left',
    Condition.test_compare_eq op ho, Option.any_eq_true]

theorem not_holds_of_complements (hop : op.Complements op') (ho : o.toValue.IsScalar)
    (hv : rec.resolve path = .ok v) (hholds : (Predicate.compare path op o).holds rec = true) :
    ¬ (Predicate.compare path op' o).holds rec = true := by
  intro hholds'
  obtain ⟨ord, hord, hacc⟩ := (holds_compare_iff ho hv).1 hholds
  obtain ⟨ord', hord', hacc'⟩ := (holds_compare_iff ho hv).1 hholds'
  obtain rfl := Option.some.inj (hord.symm.trans hord')
  rw [hop ord, hacc'] at hacc
  cases hacc

/-- A value of an exact kind satisfies one of the comparisons unless it is null. -/
theorem holds_or_holds_iff (hop : op.Complements op') (hk : d.kind.Exact)
    (ho : o.OfKind d.kind.element) (hv : rec.resolve path = .ok v) (hkind : v.OfKind d.kind) :
    (Predicate.compare path op o).holds rec = true ∨
      (Predicate.compare path op' o).holds rec = true ↔ ∃ w, v.deref = some w := by
  simp only [holds_compare_iff ho.isScalar hv]
  constructor
  · rintro (⟨ord, hord, -⟩ | ⟨ord, hord, -⟩)
    all_goals
      obtain ⟨w, hw, -⟩ := Option.bind_eq_some_iff.1 hord
      exact ⟨w, hw⟩
  · rintro ⟨w, hw⟩
    obtain ⟨ord, hord⟩ := exists_compare_of_ofKind hk ho hkind (by rw [hw]; exact nofun)
    cases hacc : op.accepts ord with
    | true => exact .inl ⟨ord, hord, hacc⟩
    | false =>
        rw [hop ord, Bool.not_eq_false'] at hacc
        exact .inr ⟨ord, hord, hacc⟩

end

/-! ## Two parameters -/

/-- The results of two parameters with one text have no record in common, and together they have
the records whose value at the path is not null. -/
def Splits (r : Registry) (options : Options) (records : List Record) (path : FieldPath)
    (raw key key' : String) : Prop :=
  ∃ q q', compile r (.single key raw) options = .ok q ∧
    compile r (.single key' raw) options = .ok q' ∧
    (∀ i, i ∈ q.places records → i ∉ q'.places records) ∧
    ∀ i, i ∈ q.places records ∨ i ∈ q'.places records ↔
      ∃ rec v w, records[i]? = some rec ∧ rec.resolve path = .ok v ∧ v.deref = some w

theorem splits_of_complements (hop : op.Complements op')
    (hsplit : Operator.splitKey key = (column, op)) (hkey : ¬ IsReserved key)
    (hsplit' : Operator.splitKey key' = (column, op')) (hkey' : ¬ IsReserved key')
    (hd : r.filterable? column = some d) (hk : d.kind.Exact) (ho : coerce raw d.kind = .ok o)
    {records : List Record}
    (hrecords : ∀ rec ∈ records, ∃ v, rec.resolve d.path = .ok v ∧ v.OfKind d.kind) :
    Splits r options records d.path raw key key' := by
  have hokind := ofKind_of_coerce ho
  obtain ⟨q, hq, hplaces⟩ := exists_compile_places hop.compares hkey hsplit hd ho
  obtain ⟨q', hq', hplaces'⟩ := exists_compile_places hop.symm.compares hkey' hsplit' hd ho
  refine ⟨q, q', hq, hq', fun i hi hi' => ?_, fun i => ?_⟩
  · obtain ⟨rec, hrec, hholds⟩ := (hplaces records i).1 hi
    obtain ⟨rec', hrec', hholds'⟩ := (hplaces' records i).1 hi'
    obtain rfl := Option.some.inj (hrec.symm.trans hrec')
    obtain ⟨v, hv, -⟩ := hrecords rec (List.mem_of_getElem? hrec)
    exact not_holds_of_complements hop hokind.isScalar hv hholds hholds'
  · rw [hplaces, hplaces', ← exists_or]
    refine exists_congr fun rec => ?_
    rw [← and_or_left]
    simp only [exists_and_left]
    refine and_congr_right fun hrec => ?_
    obtain ⟨v, hv, hkind⟩ := hrecords rec (List.mem_of_getElem? hrec)
    rw [holds_or_holds_iff hop hk hokind hv hkind]
    simp only [hv, Except.ok.injEq, exists_eq_left']

/-- An order and its complement part the records whose value is not null, for every text that can
be read for a column of an exact kind. -/
theorem results_split (r : Registry) (options : Options) {column raw : String} (hc : column ≠ "")
    {d : Descriptor} (hd : r.filterable? column = some d) (hk : d.kind.Exact) {o : Operand}
    (ho : coerce raw d.kind = .ok o) (records : List Record)
    (hrecords : ∀ rec ∈ records, ∃ v, rec.resolve d.path = .ok v ∧ v.OfKind d.kind) :
    Splits r options records d.path raw (column ++ "_lt") (column ++ "_gte") ∧
    Splits r options records d.path raw (column ++ "_gt") (column ++ "_lte") ∧
    (¬ IsReserved column → Operator.splitKey column = (column, .eq) →
      Splits r options records d.path raw column (column ++ "_ne")) := by
  have hsplit : ∀ {op : Operator} (suffix : String), op ∈ Operator.suffixed →
      suffix.toList = op.suffix → Operator.splitKey (column ++ suffix) = (column, op) :=
    fun suffix hop hsuffix =>
      Operator.splitKey_append_suffix hop hc (by rw [String.toList_append, hsuffix])
  have hlt : Operator.splitKey (column ++ "_lt") = (column, .lt) := hsplit "_lt" (by decide) rfl
  have hgte : Operator.splitKey (column ++ "_gte") = (column, .gte) :=
    hsplit "_gte" (by decide) rfl
  have hgt : Operator.splitKey (column ++ "_gt") = (column, .gt) := hsplit "_gt" (by decide) rfl
  have hlte : Operator.splitKey (column ++ "_lte") = (column, .lte) :=
    hsplit "_lte" (by decide) rfl
  have hne : Operator.splitKey (column ++ "_ne") = (column, .ne) := hsplit "_ne" (by decide) rfl
  refine ⟨?_, ?_, fun hcolumn heq => ?_⟩
  · exact splits_of_complements Operator.lt_complements_gte
      hlt (not_isReserved_of_splitKey hlt (by decide))
      hgte (not_isReserved_of_splitKey hgte (by decide)) hd hk ho hrecords
  · exact splits_of_complements Operator.gt_complements_lte
      hgt (not_isReserved_of_splitKey hgt (by decide))
      hlte (not_isReserved_of_splitKey hlte (by decide)) hd hk ho hrecords
  · exact splits_of_complements Operator.eq_complements_ne heq hcolumn
      hne (not_isReserved_of_splitKey hne (by decide)) hd hk ho hrecords

/-- Two of the five records are null, in the outer or in the inner optional. -/
theorem results_split_alias :
    let d : Descriptor :=
      { path := .parse "alias", kind := .optional (.optional .string), filterable := true }
    let row : Value → Record := fun v => ⟨.never, [("alias", v)]⟩
    let named : String → Record := fun s => row (.present (.present (.string s)))
    let records := [named "Bo", row .null, named "Ana", row (.present .null), named "Cy"]
    "alias" ≠ "" ∧ (⟨[d]⟩ : Registry).filterable? "alias" = some d ∧ d.kind.Exact ∧
      coerce "Bo" d.kind = .ok (.string "Bo") ∧
      (∀ rec ∈ records, ∃ v, rec.resolve d.path = .ok v ∧ v.OfKind d.kind) ∧
      Splits ⟨[d]⟩ {} records d.path "Bo" "alias_lt" "alias_gte" ∧
      Splits ⟨[d]⟩ {} records d.path "Bo" "alias_gt" "alias_lte" ∧
      Splits ⟨[d]⟩ {} records d.path "Bo" "alias" "alias_ne" := by
  intro d row named records
  have hk : d.kind.Exact := .optional (.optional .string)
  have hd : (⟨[d]⟩ : Registry).filterable? "alias" = some d := rfl
  have ho : coerce "Bo" d.kind = .ok (.string "Bo") := rfl
  have hrecords : ∀ rec ∈ records, ∃ v, rec.resolve d.path = .ok v ∧ v.OfKind d.kind := by
    intro rec hrec
    simp only [records, List.mem_cons, List.not_mem_nil, or_false] at hrec
    rcases hrec with rfl | rfl | rfl | rfl | rfl
    · exact ⟨_, rfl, .present (.present (.string "Bo"))⟩
    · exact ⟨_, rfl, .null _⟩
    · exact ⟨_, rfl, .present (.present (.string "Ana"))⟩
    · exact ⟨_, rfl, .present (.null _)⟩
    · exact ⟨_, rfl, .present (.present (.string "Cy"))⟩
  obtain ⟨hlt, hgt, heq⟩ := results_split ⟨[d]⟩ {} (by decide) hd hk ho records hrecords
  exact ⟨by decide, hd, hk, ho, hrecords, hlt, hgt, heq (by decide) (by decide)⟩

end Query

end RecordQuery
