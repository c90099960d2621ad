import Mathlib.Data.List.Basic
import RecordQuery.Predicate

/-!
# Predicates over lists of records

A predicate picks places of a list of records (`places`): those at which it holds, in their order
(`places_eq`). A negation picks the other places, a conjunction filters by one predicate after the
other, and a disjunction picks what some predicate picks (`places_not`, `filterBy_all`,
`places_any`). The records that match, their count and whether there are any all follow from the
places.
-/

namespace RecordQuery.Predicate

/-- The places in the list of the records that match, in their order. -/
def places (p : Predicate) (records : List Record) : List Nat :=
  (p.filterBy (·.1) records.zipIdx).map (·.2)

def holdsAt (p : Predicate) (records : List Record) (i : Nat) : Bool := records[i]?.any (p.holds ·)

variable {p : Predicate} {ps : List Predicate} {records : List Record}

theorem places_eq (p : Predicate) (records : List Record) :
    p.places records = (List.range records.length).filter (p.holdsAt records) := by
  have hholds : ∀ e ∈ records.zipIdx, p.holds e.1 = (p.holdsAt records ∘ Prod.snd) e := by
    intro e he
    have hget : records[e.2]? = some e.1 := List.mem_zipIdx_iff_getElem?.1 he
    show _ = (records[e.2]?).any (p.holds ·)
    rw [hget, Option.any_some]
  unfold places filterBy
  rw [List.filter_congr hholds, ← List.filter_map, List.zipIdx_map_snd, List.range_eq_range']

theorem mem_places_iff {i : Nat} : i ∈ p.places records ↔ p.holdsAt records i = true := by
  rw [places_eq, List.mem_filter, List.mem_range]
  refine and_iff_right_of_imp fun h => ?_
  obtain ⟨r, hr, -⟩ := Option.any_eq_true _ _ |>.1 h
  exact (List.getElem?_eq_some_iff.1 hr).1

/-! ## Combinations -/

theorem holdsAt_not {i : Nat} (hi : i < records.length) :
    (not p).holdsAt records i = !p.holdsAt records i := by
  unfold holdsAt
  rw [List.getElem?_eq_getElem hi, Option.any_some, Option.any_some, holds]

theorem holdsAt_any_iff {i : Nat} :
    (any ps).holdsAt records i = true ↔ ∃ p ∈ ps, p.holdsAt records i = true := by
  unfold holdsAt
  cases records[i]? with
  | none => simp
  | some r => simp only [Option.any_some, holds_any_iff]

theorem places_not (p : Predicate) (records : List Record) : (not p).places records =
    (List.range records.length).filter fun i => i ∉ p.places records := by
  rw [places_eq]
  refine List.filter_congr fun i hi => ?_
  rw [holdsAt_not (List.mem_range.1 hi), Bool.eq_iff_iff, decide_eq_true_eq, mem_places_iff,
    Bool.not_eq_true', Bool.not_eq_true]

theorem places_any (ps : List Predicate) (records : List Record) : (any ps).places records =
    (List.range records.length).filter fun i => ∃ p ∈ ps, i ∈ p.places records := by
  rw [places_eq]
  refine List.filter_congr fun i _ => ?_
  rw [Bool.eq_iff_iff, decide_eq_true_eq, holdsAt_any_iff]
  exact exists_congr fun p => and_congr_right fun _ => mem_places_iff.symm

theorem filterBy_all {α : Type} (record : α → Record) : ∀ (ps : List Predicate) (items : List α),
    (all ps).filterBy record items = ps.foldl (fun items p => p.filterBy record items) items
  | [], items => List.filter_eq_self.2 fun _ _ => rfl
  | p :: ps, items => by
      rw [List.foldl_cons, ← filterBy_all record ps]
      unfold filterBy
      rw [List.filter_filter]
      exact List.filter_congr fun item _ => Bool.and_comm ..

/-! ## Records -/

theorem filter_eq_filterMap_places (p : Predicate) (records : List Record) :
    p.filter records = (p.places records).filterMap (records[·]?) := by
  have hget : ∀ e ∈ p.filterBy (·.1) records.zipIdx, records[e.2]? = some e.1 := fun e he =>
    List.mem_zipIdx_iff_getElem?.1 (List.mem_of_mem_filter he)
  rw [places, List.filterMap_map]
  calc p.filter records
      = (records.zipIdx.map Prod.fst).filter (p.holds ·) := by rw [List.zipIdx_map_fst]; rfl
    _ = (p.filterBy (·.1) records.zipIdx).map Prod.fst := List.filter_map ..
    _ = (p.filterBy (·.1) records.zipIdx).filterMap fun e => records[e.2]? := by
        rw [← List.filterMap_eq_map]
        exact List.filterMap_congr fun e he => (hget e he).symm

theorem count_eq_length_places (p : Predicate) (records : List Record) :
    p.count records = (p.places records).length := by
  have hfst : records = records.zipIdx.map Prod.fst := (List.zipIdx_map_fst ..).symm
  rw [places, List.length_map, filterBy, ← List.countP_eq_length_filter]
  conv_lhs => rw [hfst]
  exact List.countP_map ..

theorem anyMatch_eq (p : Predicate) (records : List Record) :
    p.anyMatch records = !(p.places records).isEmpty := by
  have hcount : p.anyMatch records = true ↔ 0 < p.count records := by
    rw [count, List.countP_pos_iff]
    exact List.any_eq_true
  rw [Bool.eq_iff_iff, hcount, count_eq_length_places, List.length_pos_iff, Bool.not_eq_true',
    List.isEmpty_eq_false_iff]

end RecordQuery.Predicate
