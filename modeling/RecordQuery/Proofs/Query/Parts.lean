import RecordQuery.Proofs.Query.Single
import RecordQuery.Proofs.Query.Union

/-!
# Ranges and lists

A range parameter is the two parameters for its ends (`rangeAsBounds`), and a list parameter finds
what a test for equality with one of its parts finds (`listAsEqualities`). The parts are read as
texts of their own, without the blanks at their ends, so the long form compiles exactly when the
short forms do (`compile_between_and_in`).
-/

namespace RecordQuery

/-! ## Questions -/

theorem Predicate.holds_between_eq (path : FieldPath) (least greatest : Operand) (rec : Record) :
    (between path least greatest).holds rec =
      ((compare path .gte least).holds rec && (compare path .lte greatest).holds rec) := by
  rw [between, holds, allHold_eq_all, List.all_cons, List.all_cons, List.all_nil, Bool.and_true]

theorem Predicate.holds_isIn_iff {path : FieldPath} {os : List Operand} {rec : Record} :
    (isIn path os).holds rec = true ↔ ∃ o ∈ os, (compare path .eq o).holds rec = true := by
  have htest : ∀ v, (Condition.isIn os).test v = true ↔
      ∃ o ∈ os, (Condition.compare .eq o).test v = true := fun v => List.any_eq_true
  change Clause.holds ⟨path, .isIn os⟩ rec = true ↔
    ∃ o ∈ os, Clause.holds ⟨path, .compare .eq o⟩ rec = true
  simp only [Clause.holds_iff, htest]
  constructor
  · rintro ⟨v, hv, o, ho, h⟩
    exact ⟨o, ho, v, hv, h⟩
  · rintro ⟨o, ho, v, hv, h⟩
    exact ⟨v, hv, o, ho, h⟩

/-! ## Operands -/

namespace Filter

variable {d : Descriptor} {column : String}

theorem readValue_between_append {a : String} (ha : ',' ∉ a.toList) {b : String}
    {v : FilterValue} : readValue d column (a ++ "," ++ b) .between = .ok v ↔
      ∃ least greatest, coerce (Text.trim a) d.kind = .ok least ∧
        coerce (Text.trim b) d.kind = .ok greatest ∧ v = .range least greatest := by
  have hsplit : Text.splitFirst? ',' (a ++ "," ++ b).toList = some (a.toList, b.toList) := by
    rw [Text.splitFirst?_eq_some_iff, String.toList_append, String.toList_append, List.append_assoc]
    exact ⟨rfl, ha⟩
  rw [readValue_between, hsplit]
  constructor
  · rintro ⟨left, right, least, greatest, h, hl, hg, rfl⟩
    obtain ⟨rfl, rfl⟩ := Prod.mk.inj (Option.some.inj h)
    rw [String.ofList_toList] at hl hg
    exact ⟨least, greatest, hl, hg, rfl⟩
  · rintro ⟨least, greatest, hl, hg, rfl⟩
    refine ⟨_, _, least, greatest, rfl, ?_, ?_, rfl⟩
    · rwa [String.ofList_toList]
    · rwa [String.ofList_toList]

variable {xs : List String} {v : FilterValue}

theorem readValue_isIn_joinTexts (hne : xs ≠ []) (hxs : ∀ x ∈ xs, ',' ∉ x.toList) :
    readValue d column (Text.joinTexts ',' xs) .isIn = .ok v ↔
      ∃ os, xs.mapM (fun x => typed d column (Text.joinTexts ',' xs) (Text.trim x)) = .ok os ∧
        v = .list os := by
  rw [readValue_isIn, Text.splitText_joinTexts hne hxs]

theorem exists_readValue_isIn_iff (hne : xs ≠ []) (hxs : ∀ x ∈ xs, ',' ∉ x.toList) :
    (∃ v, readValue d column (Text.joinTexts ',' xs) .isIn = .ok v) ↔
      ∀ x ∈ xs, ∃ o, coerce (Text.trim x) d.kind = .ok o := by
  constructor
  · rintro ⟨v, hv⟩ x hx
    obtain ⟨os, hos, -⟩ := (readValue_isIn_joinTexts hne hxs).1 hv
    obtain ⟨o, ho⟩ := exists_mapM_eq_ok_iff.1 ⟨os, hos⟩ x hx
    exact ⟨o, typed_eq_ok_iff.1 ho⟩
  · intro h
    have htyped : ∀ x ∈ xs, ∃ o,
        typed d column (Text.joinTexts ',' xs) (Text.trim x) = .ok o := by
      simpa only [typed_eq_ok_iff] using h
    obtain ⟨os, hos⟩ := exists_mapM_eq_ok_iff.2 htyped
    exact ⟨_, (readValue_isIn_joinTexts hne hxs).2 ⟨os, hos, rfl⟩⟩

theorem exists_mem_of_readValue_isIn (hne : xs ≠ []) (hxs : ∀ x ∈ xs, ',' ∉ x.toList)
    (hv : readValue d column (Text.joinTexts ',' xs) .isIn = .ok v) :
    ∃ os, v = .list os ∧ ∀ o, o ∈ os ↔ ∃ x ∈ xs, coerce (Text.trim x) d.kind = .ok o := by
  obtain ⟨os, hos, rfl⟩ := (readValue_isIn_joinTexts hne hxs).1 hv
  refine ⟨os, rfl, fun o => ?_⟩
  simp only [mem_iff_of_mapM_eq_ok hos, typed_eq_ok_iff]

end Filter

namespace Query

variable {r : Registry} {options : Options} {column : String} {d : Descriptor}

/-! ## Parameters -/

/-- Between two texts is from the first one and up to the second one. -/
def RangeAsBounds (r : Registry) (options : Options) (column a b : String) : Prop :=
  let range := Params.single (column ++ "_between") (a ++ "," ++ b)
  let least := Params.single (column ++ "_gte") (Text.trim a)
  let greatest := Params.single (column ++ "_lte") (Text.trim b)
  ((∃ q, compile r range options = .ok q) ↔
    (∃ q, compile r least options = .ok q) ∧ ∃ q, compile r greatest options = .ok q) ∧
  ∀ q, compile r range options = .ok q → ∃ q', compile r (least.union greatest) options = .ok q' ∧
    ∀ records, q.places records = q'.places records

/-- In a list of texts is equal to one of them. -/
def ListAsEqualities (r : Registry) (options : Options) (column : String) (d : Descriptor)
    (xs : List String) : Prop :=
  let list := Params.single (column ++ "_in") (Text.joinTexts ',' xs)
  ((∃ q, compile r list options = .ok q) ↔ ∀ x ∈ xs, ∃ o, coerce (Text.trim x) d.kind = .ok o) ∧
  ∀ q, compile r list options = .ok q → ∀ records i, i ∈ q.places records ↔
    ∃ x ∈ xs, ∃ o, coerce (Text.trim x) d.kind = .ok o ∧
      i ∈ (ofFilter options ⟨d.path, .eq, .single o⟩).places records

theorem compile_bound_eq_ok_iff {op : Operator} {suffix : String} (hop : op = .gte ∨ op = .lte)
    (hsuffix : suffix.toList = op.suffix) (hc : column ≠ "") (hd : r.filterable? column = some d)
    {raw : String} {q : Query} : compile r (.single (column ++ suffix) raw) options = .ok q ↔
      ∃ o, coerce raw d.kind = .ok o ∧ q = ofFilter options ⟨d.path, op, .single o⟩ := by
  have hmem : op ∈ Operator.suffixed := by rcases hop with rfl | rfl <;> decide
  have hscalar : op ≠ .isIn ∧ op ≠ .between := by rcases hop with rfl | rfl <;> decide
  rw [compile_suffix_eq_ok_iff hmem hsuffix hc hd]
  simp only [Filter.readValue_scalar hscalar.1 hscalar.2]
  constructor
  · rintro ⟨v, ⟨o, ho, rfl⟩, rfl⟩
    exact ⟨o, ho, rfl⟩
  · rintro ⟨o, ho, rfl⟩
    exact ⟨_, ⟨o, ho, rfl⟩, rfl⟩

theorem compile_range_eq_ok_iff (hc : column ≠ "") (hd : r.filterable? column = some d)
    {a b : String} (ha : ',' ∉ a.toList) {q : Query} :
    compile r (.single (column ++ "_between") (a ++ "," ++ b)) options = .ok q ↔
      ∃ least greatest, coerce (Text.trim a) d.kind = .ok least ∧
        coerce (Text.trim b) d.kind = .ok greatest ∧
        q = ofFilter options ⟨d.path, .between, .range least greatest⟩ := by
  have hmem : Operator.between ∈ Operator.suffixed := by decide
  rw [compile_suffix_eq_ok_iff hmem rfl hc hd]
  simp only [Filter.readValue_between_append ha]
  constructor
  · rintro ⟨v, ⟨least, greatest, hl, hg, rfl⟩, rfl⟩
    exact ⟨least, greatest, hl, hg, rfl⟩
  · rintro ⟨least, greatest, hl, hg, rfl⟩
    exact ⟨_, ⟨least, greatest, hl, hg, rfl⟩, rfl⟩

theorem exists_compile_bounds (hc : column ≠ "") (hd : r.filterable? column = some d)
    {raw raw' : String} {least greatest : Operand} (hleast : coerce raw d.kind = .ok least)
    (hgreatest : coerce raw' d.kind = .ok greatest) :
    ∃ u, compile r ((Params.single (column ++ "_gte") raw).union
        (.single (column ++ "_lte") raw')) options = .ok u ∧ u.sort = options.defaultSort ∧
      ∀ rec, u.predicate.holds rec = ((Predicate.compare d.path .gte least).holds rec &&
        (Predicate.compare d.path .lte greatest).holds rec) := by
  have hgte : Operator.splitKey (column ++ "_gte") = (column, .gte) :=
    Operator.splitKey_append (by decide) rfl hc
  have hlte : Operator.splitKey (column ++ "_lte") = (column, .lte) :=
    Operator.splitKey_append (by decide) rfl hc
  have hne : column ++ "_gte" ≠ column ++ "_lte" := fun e => by
    rw [e, hlte] at hgte
    cases hgte
  have hkeys : ∀ key ∈ (Params.single (column ++ "_gte") raw).keys,
      key ∉ (Params.single (column ++ "_lte") raw').keys := by
    rw [Params.keys_single, Params.keys_single, List.forall_mem_singleton, List.mem_singleton]
    exact hne
  have hsort : sortKey ∉ (Params.single (column ++ "_lte") raw').keys := by
    rw [Params.keys_single, List.mem_singleton]
    exact fun e => not_isReserved_of_splitKey hlte (by decide) (.inl e.symm)
  have hq : compile r (.single (column ++ "_gte") raw) options =
      .ok (ofFilter options ⟨d.path, .gte, .single least⟩) :=
    (compile_bound_eq_ok_iff (.inl rfl) rfl hc hd).2 ⟨least, hleast, rfl⟩
  have hq' : compile r (.single (column ++ "_lte") raw') options =
      .ok (ofFilter options ⟨d.path, .lte, .single greatest⟩) :=
    (compile_bound_eq_ok_iff (.inr rfl) rfl hc hd).2 ⟨greatest, hgreatest, rfl⟩
  obtain ⟨u, hu⟩ := (exists_compile_union_iff hkeys).2 ⟨⟨_, hq⟩, _, hq'⟩
  refine ⟨u, hu, sort_union hsort hu hq, fun rec => ?_⟩
  rw [holds_predicate_union hkeys hu hq hq', holds_predicate_ofFilter, holds_predicate_ofFilter]
  rfl

theorem rangeAsBounds (hc : column ≠ "") (hd : r.filterable? column = some d) {a : String}
    (ha : ',' ∉ a.toList) (b : String) : RangeAsBounds r options column a b := by
  have hgte : ∀ q, compile r (.single (column ++ "_gte") (Text.trim a)) options = .ok q ↔
      ∃ o, coerce (Text.trim a) d.kind = .ok o ∧ q = ofFilter options ⟨d.path, .gte, .single o⟩ :=
    fun q => compile_bound_eq_ok_iff (.inl rfl) rfl hc hd
  have hlte : ∀ q, compile r (.single (column ++ "_lte") (Text.trim b)) options = .ok q ↔
      ∃ o, coerce (Text.trim b) d.kind = .ok o ∧ q = ofFilter options ⟨d.path, .lte, .single o⟩ :=
    fun q => compile_bound_eq_ok_iff (.inr rfl) rfl hc hd
  refine ⟨?_, fun q hq => ?_⟩
  · simp only [compile_range_eq_ok_iff hc hd ha, hgte, hlte]
    constructor
    · rintro ⟨_, least, greatest, hl, hg, -⟩
      exact ⟨⟨_, least, hl, rfl⟩, _, greatest, hg, rfl⟩
    · rintro ⟨⟨_, least, hl, -⟩, _, greatest, hg, -⟩
      exact ⟨_, least, greatest, hl, hg, rfl⟩
  · obtain ⟨least, greatest, hl, hg, rfl⟩ := (compile_range_eq_ok_iff hc hd ha).1 hq
    obtain ⟨u, hu, hsort, hholds⟩ := exists_compile_bounds hc hd hl hg
    refine ⟨u, hu, fun records => ?_⟩
    rw [places, places, applyBy_eq_applyBy hsort.symm fun rec => ?_]
    rw [hholds, holds_predicate_ofFilter]
    exact Predicate.holds_between_eq d.path least greatest rec

theorem listAsEqualities (hc : column ≠ "") (hd : r.filterable? column = some d)
    {xs : List String} (hne : xs ≠ []) (hxs : ∀ x ∈ xs, ',' ∉ x.toList) :
    ListAsEqualities r options column d xs := by
  have hcompile : ∀ q, compile r (.single (column ++ "_in") (Text.joinTexts ',' xs)) options =
      .ok q ↔ ∃ v, Filter.readValue d column (Text.joinTexts ',' xs) .isIn = .ok v ∧
        q = ofFilter options ⟨d.path, .isIn, v⟩ :=
    fun q => compile_suffix_eq_ok_iff (by decide) rfl hc hd
  refine ⟨?_, fun q hq records i => ?_⟩
  · rw [← Filter.exists_readValue_isIn_iff hne hxs]
    simp only [hcompile]
    constructor
    · rintro ⟨_, v, hv, -⟩
      exact ⟨v, hv⟩
    · rintro ⟨v, hv⟩
      exact ⟨_, v, hv, rfl⟩
  · obtain ⟨v, hv, rfl⟩ := (hcompile q).1 hq
    obtain ⟨os, rfl, hos⟩ := Filter.exists_mem_of_readValue_isIn hne hxs hv
    have hisIn : Filter.toPredicate ⟨d.path, .isIn, .list os⟩ = .isIn d.path os := rfl
    have heq : ∀ o, Filter.toPredicate ⟨d.path, .eq, .single o⟩ = .compare d.path .eq o :=
      fun _ => rfl
    simp only [mem_places_ofFilter_iff, hisIn, heq, Predicate.holds_isIn_iff, hos]
    constructor
    · rintro ⟨rec, hrec, o, ⟨x, hx, ho⟩, hholds⟩
      exact ⟨x, hx, o, ho, rec, hrec, hholds⟩
    · rintro ⟨x, hx, o, ho, rec, hrec, hholds⟩
      exact ⟨rec, hrec, o, ⟨x, hx, ho⟩, hholds⟩

/-- On a filterable column, a range is its two ends and a list is an equality with one of its parts,
in what compiles and in what is found. -/
theorem compile_between_and_in (r : Registry) (options : Options) {column : String}
    (hc : column ≠ "") {d : Descriptor} (hd : r.filterable? column = some d) :
    (∀ a b : String, ',' ∉ a.toList → RangeAsBounds r options column a b) ∧
      ∀ xs : List String, xs ≠ [] → (∀ x ∈ xs, ',' ∉ x.toList) →
        ListAsEqualities r options column d xs :=
  ⟨fun _ b ha => rangeAsBounds hc hd ha b, fun _ hne hxs => listAsEqualities hc hd hne hxs⟩

/-- The parts have blanks around them, one of the ages is null, and the second end of a range that
does not compile has a comma. -/
theorem compile_between_and_in_ages :
    let d : Descriptor := { path := .parse "age", kind := .optional (.integer .u8),
                            filterable := true }
    let ages : List Value := [.present (.number (.integer ⟨.u8, 18, by decide⟩)), .null,
      .number (.integer ⟨.i64, 30, by decide⟩), .number (.integer ⟨.u8, 40, by decide⟩)]
    let records : List Record := ages.map fun age => ⟨.never, [("age", age)]⟩
    let r : Registry := ⟨[d]⟩
    r.filterable? "age" = some d ∧
      RangeAsBounds r {} "age" " 18" "30 " ∧ RangeAsBounds r {} "age" " 18" "30,40" ∧
      ListAsEqualities r {} "age" d ["40 ", " 18"] ∧
      (∃ q, compile r (.single "age_between" " 18,30 ") {} = .ok q ∧ q.places records = [0, 2]) ∧
      (¬ ∃ q, compile r (.single "age_between" " 18,30,40") {} = .ok q) ∧
      ∃ q, compile r (.single "age_in" "40 , 18") {} = .ok q ∧ q.places records = [0, 3] := by
  intro d ages records r
  have hd : r.filterable? "age" = some d := rfl
  obtain ⟨hrange, hlist⟩ := compile_between_and_in r {} (by decide) hd
  refine ⟨hd, hrange _ _ (by decide), hrange _ _ (by decide), hlist _ (by decide) (by decide),
    ⟨_, rfl, by decide +kernel⟩, ?_, _, rfl, by decide +kernel⟩
  rintro ⟨q, hq⟩
  cases hq

end Query

end RecordQuery
