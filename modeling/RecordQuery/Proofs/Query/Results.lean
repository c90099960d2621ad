import Mathlib.Data.List.Basic
import RecordQuery.Proofs.Order.Sorting
import RecordQuery.Query

/-!
# The result of a query

A result has the items whose records match, each as often as before and in another order at most
(`applyBy_perm`). It is told by the places of the records in their list (`places`): a place is among
them when its record matches (`mem_places_iff`).
-/

namespace RecordQuery.Query

variable {α β : Type}

/-! ## Items -/

theorem holds_predicate_iff {q : Query} {r : Record} :
    q.predicate.holds r = true ↔ ∀ f ∈ q.filters, f.toPredicate.holds r = true := by
  rw [predicate, Predicate.holds_all_iff, List.forall_mem_map]

theorem applyBy_perm (q : Query) (record : α → Record) (items : List α) :
    (q.applyBy record items).Perm (q.predicate.filterBy record items) := by
  unfold applyBy
  cases q.sort with
  | none => exact .refl _
  | some order => exact Order.sortBy_perm record order _

theorem mem_applyBy_iff {q : Query} {record : α → Record} {items : List α} {item : α} :
    item ∈ q.applyBy record items ↔ item ∈ items ∧ q.predicate.holds (record item) = true := by
  rw [(q.applyBy_perm record items).mem_iff, Predicate.filterBy, List.mem_filter]

theorem length_applyBy (q : Query) (record : α → Record) (items : List α) :
    (q.applyBy record items).length = q.predicate.count (items.map record) := by
  rw [(q.applyBy_perm record items).length_eq, Predicate.filterBy, Predicate.count,
    List.countP_map, List.countP_eq_length_filter]
  rfl

theorem length_applyBy_le (q : Query) (record : α → Record) (items : List α) :
    (q.applyBy record items).length ≤ items.length := by
  rw [(q.applyBy_perm record items).length_eq]
  exact List.length_filter_le ..

theorem applyBy_map (q : Query) (record : β → Record) (f : α → β) (items : List α) :
    q.applyBy record (items.map f) = (q.applyBy (record ∘ f) items).map f := by
  unfold applyBy Predicate.filterBy
  rw [List.filter_map]
  cases q.sort with
  | none => rfl
  | some order => exact Order.sortBy_map record order f _

theorem applyBy_eq_applyBy {q q' : Query} (hsort : q.sort = q'.sort)
    (hholds : ∀ rec, q.predicate.holds rec = q'.predicate.holds rec) (record : α → Record)
    (items : List α) : q.applyBy record items = q'.applyBy record items := by
  unfold applyBy Predicate.filterBy
  simp only [hsort, hholds]

/-! ## Places -/

/-- The places in the list of the records that match, in the order asked for. -/
def places (q : Query) (records : List Record) : List Nat :=
  (q.applyBy (·.1) records.zipIdx).map (·.2)

def pageOfPlaces (q : Query) (records : List Record) : Page Nat :=
  (q.executeBy (·.1) records.zipIdx).map (·.2)

theorem pageOfPlaces_eq (q : Query) (records : List Record) :
    q.pageOfPlaces records = Page.ofList (q.places records) q.page q.limit :=
  Page.map_ofList ..

theorem mem_places_iff {q : Query} {records : List Record} {i : Nat} :
    i ∈ q.places records ↔ ∃ r, records[i]? = some r ∧ q.predicate.holds r = true := by
  simp only [places, List.mem_map, mem_applyBy_iff, Prod.exists, List.mem_zipIdx_iff_getElem?]
  constructor
  · rintro ⟨r, j, ⟨hr, hholds⟩, rfl⟩
    exact ⟨r, hr, hholds⟩
  · rintro ⟨r, hr, hholds⟩
    exact ⟨r, i, ⟨hr, hholds⟩, rfl⟩

end RecordQuery.Query
