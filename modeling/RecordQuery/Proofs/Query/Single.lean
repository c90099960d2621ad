import RecordQuery.Proofs.Operator
import RecordQuery.Proofs.Query.Filters
import RecordQuery.Proofs.Query.Reading
import RecordQuery.Proofs.Query.Results

/-!
# Queries of one parameter

A parameter that is not reserved compiles to the query of its filter (`compile_single_eq`), which
finds the records that satisfy the filter (`mem_places_ofFilter_iff`). When the key names a
filterable column, only the raw text can make it fail (`compile_column_eq`). A key with an
operator's suffix is never reserved (`not_isReserved_of_splitKey`).
-/

namespace RecordQuery.Query

variable {r : Registry} {options : Options} {column key raw : String} {op : Operator}
  {d : Descriptor} {o : Operand}

/-! ## Keys -/

theorem not_isReserved_of_splitKey (h : Operator.splitKey key = (column, op)) (hop : op ≠ .eq) :
    ¬ IsReserved key := by
  have hreserved : ∀ key ∈ [sortKey, pageKey, limitKey], (Operator.splitKey key).2 = .eq := by
    decide
  intro hr
  have hmem : key ∈ [sortKey, pageKey, limitKey] := by simpa [IsReserved] using hr
  have := hreserved key hmem
  rw [h] at this
  exact hop this

/-! ## One filter -/

def ofFilter (options : Options) (f : Filter) : Query :=
  { filters := [f], sort := options.defaultSort, limit := options.defaultLimit }

theorem holds_predicate_ofFilter (f : Filter) (rec : Record) :
    (ofFilter options f).predicate.holds rec = f.toPredicate.holds rec := by
  rw [Bool.eq_iff_iff, holds_predicate_iff, ofFilter, List.forall_mem_singleton]

theorem mem_places_ofFilter_iff {f : Filter} {records : List Record} {i : ℕ} :
    i ∈ (ofFilter options f).places records ↔
      ∃ rec, records[i]? = some rec ∧ f.toPredicate.holds rec = true := by
  simp only [mem_places_iff, holds_predicate_ofFilter]

theorem compile_single_eq (hkey : ¬ IsReserved key) (raw : String) :
    compile r (.single key raw) options = (Filter.ofParam r key raw).map (ofFilter options) := by
  change compileKey r options (key, raw) = _
  rw [compileKey_eq, readSetting_of_not_reserved hkey]
  cases Filter.ofParam r key raw <;> rfl

theorem compile_column_eq (hkey : ¬ IsReserved key) (hsplit : Operator.splitKey key = (column, op))
    (hd : r.filterable? column = some d) (raw : String) : compile r (.single key raw) options =
      (Filter.readValue d column raw op).map fun v => ofFilter options ⟨d.path, op, v⟩ := by
  simp only [compile_single_eq hkey, Filter.ofParam, hsplit, hd]
  cases Filter.readValue d column raw op <;> rfl

theorem compile_suffix_eq_ok_iff {suffix : String} (hop : op ∈ Operator.suffixed)
    (hsuffix : suffix.toList = op.suffix) (hc : column ≠ "") (hd : r.filterable? column = some d)
    {q : Query} : compile r (.single (column ++ suffix) raw) options = .ok q ↔
      ∃ v, Filter.readValue d column raw op = .ok v ∧ q = ofFilter options ⟨d.path, op, v⟩ := by
  have hsplit := Operator.splitKey_append hop hsuffix hc
  have hne : op ≠ .eq := fun e => absurd (e ▸ hop) (by decide)
  rw [compile_column_eq (not_isReserved_of_splitKey hsplit hne) hsplit hd, map_eq_ok_iff]
  simp only [eq_comm]

theorem exists_compile_places (hop : op ≠ .isIn ∧ op ≠ .contains ∧ op ≠ .between)
    (hkey : ¬ IsReserved key) (hsplit : Operator.splitKey key = (column, op))
    (hd : r.filterable? column = some d) (ho : coerce raw d.kind = .ok o) :
    ∃ q, compile r (.single key raw) options = .ok q ∧ ∀ (records : List Record) (i : Nat),
      i ∈ q.places records ↔
        ∃ rec, records[i]? = some rec ∧ (Predicate.compare d.path op o).holds rec = true := by
  have hvalue : Filter.readValue d column raw op = .ok (.single o) :=
    (Filter.readValue_scalar hop.1 hop.2.2).2 ⟨o, ho, rfl⟩
  refine ⟨_, by rw [compile_column_eq hkey hsplit hd, hvalue]; rfl, fun records i => ?_⟩
  rw [mem_places_ofFilter_iff, Filter.toPredicate_single hop.2.1]

end RecordQuery.Query
