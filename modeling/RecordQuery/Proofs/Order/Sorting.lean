import RecordQuery.Order

/-!
# Sorting items by their records

The stable sort only looks at what its comparison looks at: it commutes with a map of the items
(`stableSort_map`, `sortBy_map`), and the order of items is settled by the sort keys of their
records (`sortBy_congr`).
-/

namespace RecordQuery.Order

variable {α β : Type}

/-! ## Nothing is lost -/

theorem insert_perm (less : α → α → Bool) (x : α) : ∀ ys : List α,
    (insert less x ys).Perm (x :: ys)
  | [] => .refl _
  | y :: ys => by
      rw [insert]
      split
      · exact ((insert_perm less x ys).cons y).trans (.swap x y ys)
      · exact .refl _

theorem stableSort_perm (less : α → α → Bool) (items : List α) :
    (stableSort less items).Perm items := by
  have hfold : ∀ (items sorted : List α),
      (items.foldl (fun sorted x => insert less x sorted) sorted).Perm (items ++ sorted) := by
    intro items
    induction items with
    | nil => intro sorted; exact .refl _
    | cons x items ih =>
        intro sorted
        rw [List.foldl_cons]
        have hinsert := (insert_perm less x sorted).append_left items
        exact (ih _).trans (hinsert.trans List.perm_middle)
  have := hfold items []
  rw [List.append_nil] at this
  exact (List.reverse_perm _).trans this

theorem sortBy_perm (record : α → Record) (order : Order) (items : List α) :
    (order.sortBy record items).Perm items := by
  unfold sortBy
  refine ((stableSort_perm _ _).map _).trans ?_
  rw [List.map_map]
  exact .of_eq (List.map_id _)

/-! ## What the order depends on -/

theorem insert_map (less : β → β → Bool) (f : α → β) (x : α) : ∀ ys : List α,
    insert less (f x) (ys.map f) = (insert (fun a b => less (f a) (f b)) x ys).map f
  | [] => rfl
  | y :: ys => by
      rw [List.map_cons, insert, insert]
      split
      · rw [insert_map less f x ys, List.map_cons]
      · rfl

theorem stableSort_map (less : β → β → Bool) (f : α → β) (items : List α) :
    stableSort less (items.map f) = (stableSort (fun a b => less (f a) (f b)) items).map f := by
  have hfold : ∀ (items sorted : List α),
      (items.map f).foldl (fun sorted x => insert less x sorted) (sorted.map f) =
        (items.foldl (fun sorted x => insert (fun a b => less (f a) (f b)) x sorted)
          sorted).map f := by
    intro items
    induction items with
    | nil => intro sorted; rfl
    | cons x items ih =>
        intro sorted
        rw [List.map_cons, List.foldl_cons, List.foldl_cons, insert_map, ih]
  unfold stableSort
  rw [List.map_reverse, ← hfold items [], List.map_nil]

theorem sortBy_map (record : β → Record) (order : Order) (f : α → β) (items : List α) :
    order.sortBy record (items.map f) = (order.sortBy (record ∘ f) items).map f := by
  have hkeyed : (items.map f).map (fun item => (key? (record item) order.field, item)) =
      (items.map fun item => (key? ((record ∘ f) item) order.field, item)).map (Prod.map id f) := by
    simp only [List.map_map]
    rfl
  unfold sortBy
  dsimp only
  rw [hkeyed, stableSort_map, List.map_map, List.map_map]
  rfl

theorem sortBy_congr {record record' : α → Record} {order : Order} {items : List α}
    (h : ∀ item ∈ items, key? (record item) order.field = key? (record' item) order.field) :
    order.sortBy record items = order.sortBy record' items := by
  have hkeyed : items.map (fun item => (key? (record item) order.field, item)) =
      items.map fun item => (key? (record' item) order.field, item) :=
    List.map_congr_left fun item hm => by rw [h item hm]
  unfold sortBy
  rw [hkeyed]

theorem key?_congr {r r' : Record} {path : FieldPath}
    (h : (r.resolve path).toOption = (r'.resolve path).toOption) : key? r path = key? r' path := by
  unfold key?
  cases hr : r.resolve path <;> cases hr' : r'.resolve path <;>
    simp_all [Except.toOption]

end RecordQuery.Order
