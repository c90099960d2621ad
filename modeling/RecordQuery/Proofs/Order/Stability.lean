import RecordQuery.Proofs.Order.Keys
import RecordQuery.Proofs.Order.Sorting

/-!
# Sorting and leaving items out

Where the comparison is a preorder, a stable sort puts the items that are left in the same order
whether the others are left out before it or after it (`filter_stableSort`). The comparison of sort
keys is one as long as no key blurs two others, and then sorting records commutes with a filter of
the records (`filter_sortBy`).
-/

namespace RecordQuery.Order

variable {α : Type}

section Preordered

variable {less : α → α → Bool} {P : α → Bool} {S : α → Prop}

/-- On the items of a class, `less` is the strict part of a total preorder: it never holds both
ways, and where it does not hold goes through. -/
structure Preordered (less : α → α → Bool) (S : α → Prop) : Prop where
  asymm : ∀ {a b}, S a → S b → less a b = true → less b a = false
  trans : ∀ {a b c}, S a → S b → S c → less a b = false → less b c = false → less a c = false

abbrev Falling (less : α → α → Bool) (ys : List α) : Prop :=
  ys.Pairwise fun y z => less y z = false

/-! ## One insertion -/

theorem insert_of_forall_not_less {x : α} : ∀ {ys : List α}, (∀ y ∈ ys, less x y = false) →
    insert less x ys = x :: ys
  | [], _ => rfl
  | y :: ys, h => by
      rw [insert, h y (List.mem_cons_self ..)]
      rfl

theorem forall_mem_insert {x : α} (hx : S x) {ys : List α} (hys : ∀ y ∈ ys, S y) :
    ∀ y ∈ insert less x ys, S y := by
  intro y hy
  rcases List.mem_cons.1 ((insert_perm less x ys).mem_iff.1 hy) with rfl | hy
  · exact hx
  · exact hys y hy

theorem Falling.insert (h : Preordered less S) {x : α} (hx : S x) : ∀ {ys : List α},
    (∀ y ∈ ys, S y) → Falling less ys → Falling less (insert less x ys)
  | [], _, _ => List.pairwise_singleton ..
  | y :: ys, hS, hfall => by
      obtain ⟨hy, hys⟩ := List.forall_mem_cons.1 hS
      obtain ⟨hhead, htail⟩ := List.pairwise_cons.1 hfall
      rw [Order.insert]
      split
      · rename_i hless
        refine List.pairwise_cons.2 ⟨?_, Falling.insert h hx hys htail⟩
        exact forall_mem_insert (S := fun z => less y z = false) (h.asymm hx hy hless) hhead
      · rename_i hless
        rw [Bool.not_eq_true] at hless
        refine List.pairwise_cons.2 ⟨fun z hz => ?_, hfall⟩
        rcases List.mem_cons.1 hz with rfl | hz
        · exact hless
        · exact h.trans hx hy (hys z hz) hless (hhead z hz)

theorem filter_insert_of_neg {x : α} (hx : P x = false) : ∀ ys : List α,
    (insert less x ys).filter P = ys.filter P
  | [] => by simp [insert, hx]
  | y :: ys => by
      rw [insert]
      split
      · rw [List.filter_cons, List.filter_cons, filter_insert_of_neg hx ys]
      · rw [List.filter_cons_of_neg (by simp [hx])]

theorem filter_insert_of_pos (h : Preordered less S) {x : α} (hx : S x) (hP : P x = true) :
    ∀ {ys : List α}, (∀ y ∈ ys, S y) → Falling less ys →
      (insert less x ys).filter P = insert less x (ys.filter P)
  | [], _, _ => by simp [insert, hP]
  | y :: ys, hS, hfall => by
      obtain ⟨hy, hys⟩ := List.forall_mem_cons.1 hS
      obtain ⟨hhead, htail⟩ := List.pairwise_cons.1 hfall
      have ih := filter_insert_of_pos h hx hP hys htail
      rw [insert]
      split
      · rename_i hless
        by_cases hPy : P y = true
        · rw [List.filter_cons_of_pos hPy, List.filter_cons_of_pos hPy, ih, insert, if_pos hless]
        · rw [List.filter_cons_of_neg hPy, List.filter_cons_of_neg hPy, ih]
      · rename_i hless
        rw [Bool.not_eq_true] at hless
        -- the item goes in front of all others, so it does in front of those that are left
        have hfront : ∀ z ∈ y :: ys, less x z = false :=
          List.forall_mem_cons.2 ⟨hless, fun z hz => h.trans hx hy (hys z hz) hless (hhead z hz)⟩
        rw [List.filter_cons_of_pos hP, insert_of_forall_not_less]
        exact fun z hz => hfront z (List.mem_of_mem_filter hz)

/-! ## The whole sort -/

theorem filter_foldl_insert (h : Preordered less S) (P : α → Bool) : ∀ {xs sorted : List α},
    (∀ x ∈ xs, S x) → (∀ y ∈ sorted, S y) → Falling less sorted →
      (xs.foldl (fun sorted x => insert less x sorted) sorted).filter P =
        (xs.filter P).foldl (fun sorted x => insert less x sorted) (sorted.filter P)
  | [], _, _, _, _ => rfl
  | x :: xs, sorted, hxs, hsorted, hfall => by
      obtain ⟨hx, hxs⟩ := List.forall_mem_cons.1 hxs
      rw [List.foldl_cons, filter_foldl_insert h P hxs (forall_mem_insert hx hsorted)
        (hfall.insert h hx hsorted)]
      by_cases hP : P x = true
      · rw [List.filter_cons_of_pos hP, List.foldl_cons,
          filter_insert_of_pos h hx hP hsorted hfall]
      · rw [List.filter_cons_of_neg hP, filter_insert_of_neg (Bool.eq_false_iff.2 hP)]

/-- Leaving items out commutes with a stable sort. -/
theorem filter_stableSort {items : List α} (h : Preordered less (· ∈ items)) (P : α → Bool) :
    (stableSort less items).filter P = stableSort less (items.filter P) := by
  have hsort := filter_foldl_insert h P (fun _ hx => hx) (List.forall_mem_nil _) .nil
  unfold stableSort
  rw [List.filter_reverse, hsort, List.filter_nil]

end Preordered

/-! ## Records -/

variable {record : α → Record} {order : Order} {items : List α}

def precedes (order : Order) (record : α → Record) (a b : α) : Bool :=
  compareKeys order.direction (key? (record a) order.field) (key? (record b) order.field) == .lt

theorem precedes_eq_false_iff {a b : α} : order.precedes record a b = false ↔
    compareKeys order.direction (key? (record b) order.field) (key? (record a) order.field) ≠
      .gt := by
  rw [precedes, beq_eq_false_iff_ne, compareKeys_swap, ne_eq, Ordering.swap_eq_lt]

theorem sortBy_eq_stableSort (record : α → Record) (order : Order) (items : List α) :
    order.sortBy record items = stableSort (order.precedes record) items := by
  unfold sortBy
  dsimp only
  rw [stableSort_map, List.map_map]
  exact List.map_id _

/-- No sort key of the records blurs two others. -/
def Unblurred (order : Order) (record : α → Record) (items : List α) : Prop :=
  ∀ a ∈ items, ∀ b ∈ items, ∀ c ∈ items, ¬ Blurs (key? (record b) order.field)
    (key? (record a) order.field) (key? (record c) order.field)

theorem Unblurred.subset (h : order.Unblurred record items) {items' : List α}
    (hsub : items' ⊆ items) : order.Unblurred record items' :=
  fun a ha b hb c hc => h a (hsub ha) b (hsub hb) c (hsub hc)

theorem preordered_of_unblurred (h : order.Unblurred record items) :
    Preordered (order.precedes record) (· ∈ items) where
  asymm {a b} _ _ hab := by
    rw [precedes, beq_iff_eq] at hab
    rw [precedes_eq_false_iff, hab]
    decide
  trans {a b c} ha hb hc hab hbc := by
    -- an item that does not precede comes after or is equal, so this is the order read backwards
    rw [precedes_eq_false_iff] at hab hbc ⊢
    exact (compareKeys_trans_or_blurs order.direction (orderable_key? _ _) (orderable_key? _ _)
      (orderable_key? _ _) hbc hab).resolve_right (h c hc b hb a ha)

theorem filter_sortBy (h : order.Unblurred record items) (P : α → Bool) :
    (order.sortBy record items).filter P = order.sortBy record (items.filter P) := by
  rw [sortBy_eq_stableSort, sortBy_eq_stableSort, filter_stableSort (preordered_of_unblurred h)]

theorem unblurred_of_integers (h : ∀ item ∈ items, ∀ n,
    key? (record item) order.field = some (.number n) → n.isFloat = false) :
    order.Unblurred record items := by
  rintro a - b hb c - ⟨l, m, n, hl, -, -, hblurs⟩
  have hfloat := h b hb l hl
  cases l with
  | integer l => exact absurd hblurs.1 (Nat.not_lt_zero _)
  | single x => cases hfloat
  | double x => cases hfloat

end RecordQuery.Order
