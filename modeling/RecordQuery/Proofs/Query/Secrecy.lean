import RecordQuery.Proofs.Query.Exposure
import RecordQuery.Proofs.Query.Results
import RecordQuery.Proofs.Registry

/-!
# What results reveal

The result of a compiled query, as places in the list of records, is settled by the values at the
exposed fields: two lists of records that agree there, place by place, have the same places in the
result and on each page (`places_eq_of_sameAt`).
-/

namespace RecordQuery

/-- Both records have the same value at the path, or neither has one. -/
def Record.SameAt (path : FieldPath) (r r' : Record) : Prop :=
  (r.resolve path).toOption = (r'.resolve path).toOption

/-! ## Filters -/

theorem Clause.holds_congr {c : Clause} {r r' : Record} (h : Record.SameAt c.path r r') :
    c.holds r = c.holds r' := by
  unfold Record.SameAt at h
  unfold Clause.holds
  cases hr : r.resolve c.path <;> cases hr' : r'.resolve c.path <;>
    simp_all [Except.toOption]

theorem Filter.holds_toPredicate_congr {f : Filter} {r r' : Record}
    (h : Record.SameAt f.path r r') : f.toPredicate.holds r = f.toPredicate.holds r' := by
  have hfield : ∀ c, (Predicate.onField f.path c).holds r = (Predicate.onField f.path c).holds r' :=
    fun c => Clause.holds_congr (c := ⟨f.path, c⟩) h
  obtain ⟨path, op, v⟩ := f
  cases v with
  | range least greatest =>
      show (_ && (_ && true)) = (_ && (_ && true))
      exact congrArg₂ _ (hfield _) (congrArg₂ _ (hfield _) rfl)
  | list os => exact hfield _
  | single o => cases op <;> exact hfield _

namespace Query

variable {α β : Type}

theorem holds_predicate_congr {q : Query} {r r' : Record}
    (h : ∀ f ∈ q.filters, Record.SameAt f.path r r') :
    q.predicate.holds r = q.predicate.holds r' := by
  rw [Bool.eq_iff_iff, holds_predicate_iff, holds_predicate_iff]
  exact forall₂_congr fun f hf => by rw [Filter.holds_toPredicate_congr (h f hf)]

/-! ## Results -/

def Reads (q : Query) (path : FieldPath) : Prop :=
  (∃ f ∈ q.filters, f.path = path) ∨ ∃ order, q.sort = some order ∧ order.field = path

theorem applyBy_congr {q : Query} {record record' : α → Record} {items : List α}
    (h : ∀ item ∈ items, ∀ path, q.Reads path → Record.SameAt path (record item) (record' item)) :
    q.applyBy record items = q.applyBy record' items := by
  have hmatched : q.predicate.filterBy record items = q.predicate.filterBy record' items := by
    refine List.filter_congr fun item hm => ?_
    exact holds_predicate_congr fun f hf => h item hm _ (.inl ⟨f, hf, rfl⟩)
  unfold applyBy
  rw [hmatched]
  cases hs : q.sort with
  | none => rfl
  | some order =>
      refine Order.sortBy_congr fun item hm => ?_
      exact Order.key?_congr (h item (List.mem_of_mem_filter hm) _ (.inr ⟨order, hs, rfl⟩))

/-! ## Two lists of records -/

/-- Parameters may name the path: it belongs to a filterable or sortable descriptor, or the default
order goes by it. -/
def Exposes (r : Registry) (options : Options) (path : FieldPath) : Prop :=
  (∃ d ∈ r.fields, (d.filterable = true ∨ d.sortable = true) ∧ d.path = path) ∨
    ∃ order, options.defaultSort = some order ∧ order.field = path

variable {r : Registry} {options : Options} {p : Params} {q : Query}

theorem exposes_of_reads (h : compile r p options = .ok q) {path : FieldPath}
    (hp : q.Reads path) : Exposes r options path := by
  rcases hp with ⟨f, hf, rfl⟩ | ⟨order, hs, rfl⟩
  · obtain ⟨-, -, column, d, -, -, -, hd, hpath, -⟩ := filterExposed_of_mem h hf
    obtain ⟨hget, hflag⟩ := Registry.filterable?_eq_some_iff.1 hd
    exact .inl ⟨d, Registry.mem_of_get? hget, .inl hflag, hpath.symm⟩
  · have hsort := sortExposed_of_compile h
    unfold SortExposed at hsort
    cases hraw : p.get? sortKey with
    | none =>
        rw [hraw] at hsort
        exact .inr ⟨order, hsort.symm.trans hs, rfl⟩
    | some raw =>
        rw [hraw] at hsort
        obtain ⟨d, hd, e⟩ := hsort
        obtain rfl : order = ⟨d.path, (Order.parse raw).direction⟩ :=
          Option.some.inj (hs.symm.trans e)
        obtain ⟨hget, hflag⟩ := Registry.sortable?_eq_some_iff.1 hd
        exact .inl ⟨d, Registry.mem_of_get? hget, .inr hflag, rfl⟩

theorem zipIdx_eq_map_zip {xs ys : List Record} (hlen : xs.length = ys.length) :
    xs.zipIdx = (xs.zip ys).zipIdx.map (fun z => (z.1.1, z.2)) ∧
    ys.zipIdx = (xs.zip ys).zipIdx.map (fun z => (z.1.2, z.2)) := by
  constructor
  · conv_lhs => rw [← List.map_fst_zip (le_of_eq hlen), List.zipIdx_map]
    rfl
  · conv_lhs => rw [← List.map_snd_zip (le_of_eq hlen.symm), List.zipIdx_map]
    rfl

/-- Records that agree at the exposed fields, place by place, give the same places in the result
and on the page, whatever their other fields hold. -/
theorem places_eq_of_sameAt (r : Registry) (p : Params) (options : Options) {q : Query}
    (h : compile r p options = .ok q) {xs ys : List Record} (hlen : xs.length = ys.length)
    (hsame : ∀ i (hx : i < xs.length) (hy : i < ys.length) path, Exposes r options path →
      Record.SameAt path xs[i] ys[i]) :
    q.places xs = q.places ys ∧ q.pageOfPlaces xs = q.pageOfPlaces ys := by
  obtain ⟨hxs, hys⟩ := zipIdx_eq_map_zip hlen
  have hpaired : q.applyBy (fun z : (Record × Record) × Nat => z.1.1) (xs.zip ys).zipIdx =
      q.applyBy (fun z : (Record × Record) × Nat => z.1.2) (xs.zip ys).zipIdx := by
    refine applyBy_congr fun z hz path hpath => ?_
    obtain ⟨hx, hy⟩ := List.getElem?_zip_eq_some.1 (List.mem_zipIdx_iff_getElem?.1 hz)
    obtain ⟨hxlt, hx⟩ := List.getElem?_eq_some_iff.1 hx
    obtain ⟨hylt, hy⟩ := List.getElem?_eq_some_iff.1 hy
    rw [← hx, ← hy]
    exact hsame z.2 hxlt hylt path (exposes_of_reads h hpath)
  have hplaces : q.places xs = q.places ys := by
    rw [places, places, hxs, hys, applyBy_map, applyBy_map, List.map_map, List.map_map]
    exact congrArg (List.map (·.2)) hpaired
  exact ⟨hplaces, by rw [pageOfPlaces_eq, pageOfPlaces_eq, hplaces]⟩

/-- The unexposed field `note` differs in every row. -/
theorem places_eq_of_sameAt_notes :
    let fields : List Descriptor := [{ path := .parse "name", kind := .string, filterable := true }]
    let options : Options := { defaultSort := some ⟨.parse "paid", .descending⟩ }
    let p := Params.ofPairs [("name_lte", "Bo"), ("limit", "1")]
    let row : String → Bool → String → Record := fun name paid note =>
      ⟨.never, [("name", .string name), ("paid", .bool paid), ("note", .string note)]⟩
    let xs := [row "Ana" false "a", row "Cy" true "b", row "Bo" true "c"]
    let ys := [row "Ana" false "x", row "Cy" true "y", row "Bo" true "z"]
    ∃ q, compile ⟨fields⟩ p options = .ok q ∧ q.places xs = [2, 0] ∧
      q.places xs = q.places ys ∧ q.pageOfPlaces xs = q.pageOfPlaces ys := by
  intro fields options p row xs ys
  obtain ⟨q, hq, hplaces⟩ : ∃ q, compile ⟨fields⟩ p options = .ok q ∧ q.places xs = [2, 0] :=
    ⟨_, rfl, rfl⟩
  refine ⟨q, hq, hplaces, places_eq_of_sameAt ⟨fields⟩ p options hq rfl ?_⟩
  intro i hx hy path hpath
  have hi : i = 0 ∨ i = 1 ∨ i = 2 := by
    simp only [xs, List.length_cons, List.length_nil] at hx
    omega
  obtain rfl | rfl : path = .parse "name" ∨ path = .parse "paid" := by
    rcases hpath with ⟨d, hd, -, rfl⟩ | ⟨order, ho, rfl⟩
    · simp only [fields, List.mem_singleton] at hd
      subst hd
      exact .inl rfl
    · cases ho
      exact .inr rfl
  all_goals rcases hi with rfl | rfl | rfl <;> rfl

end Query

end RecordQuery
