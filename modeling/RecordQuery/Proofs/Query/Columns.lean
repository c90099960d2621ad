import RecordQuery.Proofs.Query.Single
import RecordQuery.Proofs.Registry

/-!
# Columns by their names

A parameter that is called like a column asks for equality with the column, unless the name means
something else in a key: it is reserved, or it ends with the suffix of an operator
(`compile_columnName_iff`).
-/

namespace RecordQuery.Query

variable {r : Registry} {options : Options} {key raw : String} {q : Query}

theorem op_of_compile_single {f : Filter} (h : compile r (.single key raw) options = .ok q)
    (hf : f ∈ q.filters) : ¬ IsReserved key ∧ (Operator.splitKey key).2 = f.op := by
  obtain ⟨a, ha, hkey, hread⟩ := (mem_filters_iff h).1 hf
  obtain rfl := List.mem_singleton.1 ha
  obtain ⟨-, -, -, -, rfl⟩ := Filter.ofParam_eq_ok_iff.1 hread
  exact ⟨hkey, rfl⟩

/-- Among columns of different names, a filterable one is reached by its name exactly when the name
is not reserved and is split as a field as a whole: then text of its kind compiles to the one filter
that asks for equality. -/
theorem compile_columnName_iff (options : Options) {fields : List Descriptor}
    (hdistinct : fields.Pairwise fun a b => a.columnName ≠ b.columnName) {d : Descriptor}
    (hd : d ∈ fields) (hfilterable : d.filterable = true) {raw : String} {o : Operand}
    (ho : coerce raw d.kind = .ok o) :
    (∃ q, compile ⟨fields⟩ (.single d.columnName raw) options = .ok q ∧
      q.filters = [⟨d.path, .eq, .single o⟩]) ↔
    ¬ IsReserved d.columnName ∧ Operator.splitKey d.columnName = (d.columnName, .eq) := by
  constructor
  · rintro ⟨q, hq, hfilters⟩
    obtain ⟨hkey, hop⟩ := op_of_compile_single hq (hfilters ▸ List.mem_singleton_self _)
    exact ⟨hkey, Operator.splitKey_eq_of_snd_eq hop⟩
  · rintro ⟨hkey, hsplit⟩
    have hget : (⟨fields⟩ : Registry).filterable? d.columnName = some d :=
      Registry.filterable?_eq_some_iff.2 ⟨Registry.get?_columnName hdistinct hd, hfilterable⟩
    have hvalue : Filter.readValue d d.columnName raw .eq = .ok (.single o) :=
      (Filter.readValue_scalar (by decide) (by decide)).2 ⟨o, ho, rfl⟩
    exact ⟨_, by rw [compile_column_eq hkey hsplit hget, hvalue]; rfl, rfl⟩

/-- A suffix without a field in front of it is a name like others. -/
theorem compile_columnName_iff_in :
    let d : Descriptor := { path := .parse "place.within", kind := .optional (.integer .i8),
                            column := some "_in", filterable := true }
    let fields : List Descriptor := [{ path := .parse "login", kind := .string }, d]
    (fields.Pairwise fun a b => a.columnName ≠ b.columnName) ∧ d ∈ fields ∧
      d.filterable = true ∧ coerce "-7" d.kind = .ok (.number (.integer ⟨.i8, -7, by decide⟩)) ∧
      ∃ q, compile ⟨fields⟩ (.single "_in" "-7") {} = .ok q ∧
        q.filters = [⟨d.path, .eq, .single (.number (.integer ⟨.i8, -7, by decide⟩))⟩] := by
  intro d fields
  have hdistinct : fields.Pairwise fun a b => a.columnName ≠ b.columnName := by decide +kernel
  have hd : d ∈ fields := List.mem_cons_of_mem _ (List.mem_singleton_self d)
  have ho : coerce "-7" d.kind = .ok (.number (.integer ⟨.i8, -7, by decide⟩)) := rfl
  have hiff := compile_columnName_iff {} hdistinct hd rfl ho
  exact ⟨hdistinct, hd, rfl, ho, hiff.2 ⟨by decide, by decide⟩⟩

/-- The one field `checked_in` is sought as a list of values of a field `checked`, and the one field
`page` is taken for the page number. -/
theorem compile_columnName_not_reached :
    let checked : Descriptor := { path := .parse "checked_in", kind := .bool, filterable := true }
    let page : Descriptor := { path := .parse "page", kind := .integer .u32, filterable := true }
    (checked.columnName = "checked_in" ∧ coerce "true" checked.kind = .ok (.bool true) ∧
      compile ⟨[checked]⟩ (.single "checked_in" "true") {} = .error (.notFilterable "checked")) ∧
    page.columnName = "page" ∧
      coerce "7" page.kind = .ok (.number (.integer ⟨.u32, 7, by decide⟩)) ∧
      ∃ q, compile ⟨[page]⟩ (.single "page" "7") {} = .ok q ∧ q.filters = [] ∧ q.page = 7 :=
  ⟨⟨by decide +kernel, rfl, rfl⟩, by decide +kernel, rfl, _, rfl, rfl, rfl⟩

end RecordQuery.Query
