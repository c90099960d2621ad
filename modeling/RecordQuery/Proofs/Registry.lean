import Mathlib.Data.List.Induction
import Mathlib.Data.List.Pairwise
import RecordQuery.Proofs.Params
import RecordQuery.Registry

/-!
# Looking up columns

Entering one more field gives it its column name and leaves all other names where they are
(`columns_concat`). So a name leads to the last field that has it (`get?_eq_some_iff`) and to none
if no field has it (`get?_eq_none_iff`), and what may be done with the column is up to this very
field (`lookups_lastNamed`). When no two fields have one column name, each field is found under its own
(`get?_columnName`).
-/

namespace RecordQuery

/-! ## Names and positions -/

theorem Columns.lookup_insert (name : String) (position : ℕ) (column : String) :
    ∀ columns : Columns, (columns.insert name position).lookup column =
      if column = name then some position else columns.lookup column
  | [] => Params.lookup_cons_eq_ite ..
  | (n, i) :: rest => by
      have ih := lookup_insert name position column rest
      rw [insert, Params.lookup_cons_eq_ite]
      by_cases hn : n = name
      · rw [if_pos hn, Params.lookup_cons_eq_ite, hn]
        split <;> rfl
      · rw [if_neg hn, Params.lookup_cons_eq_ite, ih]
        by_cases hc : column = n
        · rw [if_pos hc, if_pos hc, if_neg (hc ▸ hn)]
        · rw [if_neg hc, if_neg hc]

namespace Registry

variable {fields : List Descriptor} {column : String} {d e : Descriptor} {i : ℕ}

/-! ## The last field with a name -/

/-- The field at a position has the column name, and no later field has it. -/
structure LastNamed (fields : List Descriptor) (column : String) (i : ℕ) (d : Descriptor) :
    Prop where
  getElem?_eq : fields[i]? = some d
  columnName_eq : d.columnName = column
  columnName_ne : ∀ j e, i < j → fields[j]? = some e → e.columnName ≠ column

theorem LastNamed.lt_length (h : LastNamed fields column i d) : i < fields.length :=
  (List.getElem?_eq_some_iff.1 h.getElem?_eq).1

theorem not_lastNamed_nil : ¬ LastNamed [] column i d :=
  fun h => absurd h.lt_length (Nat.not_lt_zero i)

theorem getElem?_concat_eq_some_iff :
    (fields ++ [d])[i]? = some e ↔ fields[i]? = some e ∨ i = fields.length ∧ d = e := by
  rcases Nat.lt_or_ge i fields.length with hi | hi
  · rw [List.getElem?_append_left hi]
    exact (or_iff_left fun h => absurd h.1 (Nat.ne_of_lt hi)).symm
  · have hzero : i - fields.length = 0 ↔ i = fields.length := by omega
    simp [List.getElem?_append_right hi, List.getElem?_eq_none hi, List.getElem?_singleton, hzero]

theorem lastNamed_length : LastNamed (fields ++ [d]) d.columnName fields.length d where
  getElem?_eq := List.getElem?_concat_length
  columnName_eq := rfl
  columnName_ne j e hj he := by
    rcases getElem?_concat_eq_some_iff.1 he with he | ⟨rfl, -⟩
    · exact absurd (List.getElem?_eq_some_iff.1 he).1 (Nat.lt_asymm hj)
    · exact absurd hj (Nat.lt_irrefl _)

theorem LastNamed.eq_length (h : LastNamed (fields ++ [d]) d.columnName i e) :
    i = fields.length := by
  rcases getElem?_concat_eq_some_iff.1 h.getElem?_eq with he | ⟨hi, -⟩
  · have hi := (List.getElem?_eq_some_iff.1 he).1
    exact absurd rfl (h.columnName_ne _ d hi List.getElem?_concat_length)
  · exact hi

theorem lastNamed_concat_iff (hd : d.columnName ≠ column) :
    LastNamed (fields ++ [d]) column i e ↔ LastNamed fields column i e := by
  constructor
  · intro h
    rcases getElem?_concat_eq_some_iff.1 h.getElem?_eq with he | ⟨-, rfl⟩
    · exact ⟨he, h.columnName_eq, fun j e' hj he' =>
        h.columnName_ne j e' hj (getElem?_concat_eq_some_iff.2 (.inl he'))⟩
    · exact absurd h.columnName_eq hd
  · intro h
    refine ⟨getElem?_concat_eq_some_iff.2 (.inl h.getElem?_eq), h.columnName_eq,
      fun j e' hj he' => ?_⟩
    rcases getElem?_concat_eq_some_iff.1 he' with he' | ⟨-, rfl⟩
    · exact h.columnName_ne j e' hj he'
    · exact hd

/-! ## Columns -/

theorem columns_concat (fields : List Descriptor) (d : Descriptor) :
    (⟨fields ++ [d]⟩ : Registry).columns =
      (⟨fields⟩ : Registry).columns.insert d.columnName fields.length := by
  simp [columns, List.zipIdx_append, List.foldl_append]

theorem lookup_columns_iff :
    (⟨fields⟩ : Registry).columns.lookup column = some i ↔ ∃ d, LastNamed fields column i d := by
  induction fields using List.reverseRecOn generalizing i with
  | nil =>
      constructor
      · intro h
        cases h
      · rintro ⟨d, h⟩
        exact absurd h not_lastNamed_nil
  | append_singleton fields d ih =>
      rw [columns_concat, Columns.lookup_insert]
      by_cases hd : column = d.columnName
      · rw [if_pos hd, hd, Option.some.injEq]
        constructor
        · rintro rfl
          exact ⟨d, lastNamed_length⟩
        · rintro ⟨e, h⟩
          exact h.eq_length.symm
      · rw [if_neg hd, ih]
        exact exists_congr fun e => (lastNamed_concat_iff (Ne.symm hd)).symm

/-! ## Fields -/

theorem get?_eq_some_iff :
    (⟨fields⟩ : Registry).get? column = some d ↔ ∃ i, LastNamed fields column i d := by
  simp only [get?, Option.bind_eq_some_iff, lookup_columns_iff]
  constructor
  · rintro ⟨i, ⟨e, h⟩, hd⟩
    obtain rfl : e = d := Option.some.inj (h.getElem?_eq.symm.trans hd)
    exact ⟨i, h⟩
  · rintro ⟨i, h⟩
    exact ⟨i, ⟨d, h⟩, h.getElem?_eq⟩

theorem exists_lastNamed_of_mem (hd : d ∈ fields) (hname : d.columnName = column) :
    ∃ i e, LastNamed fields column i e := by
  induction fields using List.reverseRecOn with
  | nil => cases hd
  | append_singleton fields e ih =>
      by_cases he : e.columnName = column
      · exact ⟨_, e, he ▸ lastNamed_length⟩
      · rcases List.mem_append.1 hd with hd | hd
        · obtain ⟨i, e', h⟩ := ih hd
          exact ⟨i, e', (lastNamed_concat_iff he).2 h⟩
        · exact absurd (List.mem_singleton.1 hd ▸ hname) he

theorem get?_eq_none_iff :
    (⟨fields⟩ : Registry).get? column = none ↔ ∀ d ∈ fields, d.columnName ≠ column := by
  constructor
  · intro hnone d hd hname
    obtain ⟨i, e, h⟩ := exists_lastNamed_of_mem hd hname
    rw [get?_eq_some_iff.2 ⟨i, h⟩] at hnone
    cases hnone
  · intro hne
    by_contra hsome
    obtain ⟨d, hd⟩ := Option.ne_none_iff_exists'.1 hsome
    obtain ⟨i, h⟩ := get?_eq_some_iff.1 hd
    exact hne d (List.mem_of_getElem? h.getElem?_eq) h.columnName_eq

theorem mem_of_get? {r : Registry} (h : r.get? column = some d) : d ∈ r.fields := by
  obtain ⟨i, hlast⟩ := get?_eq_some_iff.1 h
  exact List.mem_of_getElem? hlast.getElem?_eq

theorem get?_columnName (h : fields.Pairwise fun a b => a.columnName ≠ b.columnName)
    (hd : d ∈ fields) : (⟨fields⟩ : Registry).get? d.columnName = some d := by
  obtain ⟨i, e, hlast⟩ := exists_lastNamed_of_mem hd rfl
  have he : e ∈ fields := List.mem_of_getElem? hlast.getElem?_eq
  have hsymm : Std.Symm fun a b : Descriptor => a.columnName ≠ b.columnName :=
    ⟨fun _ _ hab => hab.symm⟩
  obtain rfl : e = d := by
    by_contra hne
    exact h.forall he hd hne hlast.columnName_eq
  exact get?_eq_some_iff.2 ⟨i, hlast⟩

/-- A column name leads to the last field that has it, at a position within the list, and to none if
no field has it. Whether the column may be used for filtering or sorting is up to this field alone:
there is no way back to an earlier field of the name. -/
theorem lookups_lastNamed (fields : List Descriptor) (column : String) :
    let r : Registry := ⟨fields⟩
    r.fields = fields ∧
    (∀ i, r.columns.lookup column = some i ↔ ∃ d, LastNamed fields column i d) ∧
    (∀ i ∈ r.columns.lookup column, i < fields.length) ∧
    (∀ d, r.get? column = some d ↔ ∃ i, LastNamed fields column i d) ∧
    (r.get? column = none ↔ ∀ d ∈ fields, d.columnName ≠ column) ∧
    (∀ d, r.filterable? column = some d ↔
      (∃ i, LastNamed fields column i d) ∧ d.filterable = true) ∧
    (∀ d, r.sortable? column = some d ↔
      (∃ i, LastNamed fields column i d) ∧ d.sortable = true) := by
  intro r
  refine ⟨rfl, fun _ => lookup_columns_iff, fun i hi => ?_, fun _ => get?_eq_some_iff,
    get?_eq_none_iff, fun d => ?_, fun d => ?_⟩
  · obtain ⟨d, h⟩ := lookup_columns_iff.1 hi
    exact h.lt_length
  · rw [filterable?_eq_some_iff, get?_eq_some_iff]
  · rw [sortable?_eq_some_iff, get?_eq_some_iff]

/-- A later field hides an earlier one that may be filtered by, and its own flag is for sorting. -/
example :
    let hidden : Descriptor := { path := .parse "UserName", kind := .string, filterable := true }
    let last : Descriptor := { path := .parse "user_name", kind := .string, sortable := true }
    let r : Registry := ⟨[hidden, last]⟩
    r.filterable? "user_name" = none ∧ r.sortable? "user_name" = some last := by
  decide +kernel

end Registry

end RecordQuery
