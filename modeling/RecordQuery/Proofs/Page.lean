import Mathlib.Algebra.Order.Floor.Div
import RecordQuery.Page

/-!
# All pages of a list

A list whose length is a count takes one page, or as many as hold its items (`pagesOf`). The pages
are the list cut in order (`flatMap_items_pagesOf`), all but the last are full
(`length_items_of_mem_dropLast`), and whoever starts at the first page and asks for the next one as
long as there is one reads exactly these (`walk_pagesOf`).
-/

namespace RecordQuery.Page

variable {α ε : Type} {xs : List α} {n limit : ℕ}

/-! ## One page -/

theorem items_ofList (hlen : xs.length ≤ maxCount) (n limit : ℕ) :
    (ofList xs n limit).items = (xs.drop ((n - 1) * limit)).take limit := by
  unfold ofList
  dsimp only
  generalize (n - 1) * limit = before
  by_cases hin : before ≤ xs.length
  · have hstart : min (min before maxCount) xs.length = before := by omega
    rw [hstart, List.take_eq_take_iff, List.length_drop]
    omega
  · have hstart : min (min before maxCount) xs.length = xs.length := by omega
    rw [hstart, List.drop_length, List.drop_eq_nil_of_le (by omega), List.take_nil, List.take_nil]

theorem hasNext_ofList_iff (hlen : xs.length ≤ maxCount) (hn : 1 ≤ n) :
    (ofList xs n limit).hasNext = true ↔ n * limit < xs.length := by
  have hmul : n * limit = (n - 1) * limit + limit := by
    rw [← Nat.succ_mul, Nat.succ_eq_add_one, Nat.sub_add_cancel hn]
  unfold ofList
  simp only [decide_eq_true_eq, hmul]
  omega

theorem items_ofList_ne_nil_iff (hlen : xs.length ≤ maxCount) (hlimit : 1 ≤ limit) :
    (ofList xs (n + 1) limit).items ≠ [] ↔ n * limit < xs.length := by
  rw [items_ofList hlen, Nat.add_sub_cancel, ← List.length_pos_iff, List.length_take,
    List.length_drop]
  omega

/-! ## The pages of a list -/

/-- The pages of a list in order. An empty list has one page. -/
def pagesOf (xs : List α) (limit : ℕ) : List (Page α) :=
  (List.range' 1 (max 1 (xs.length ⌈/⌉ limit))).map fun n => ofList xs n limit

theorem length_pagesOf : (pagesOf xs limit).length = max 1 (xs.length ⌈/⌉ limit) := by
  rw [pagesOf, List.length_map, List.length_range']

theorem total_of_mem_pagesOf {p : Page α} (h : p ∈ pagesOf xs limit) : p.total = xs.length := by
  obtain ⟨n, -, rfl⟩ := List.mem_map.1 h
  rfl

theorem flatMap_items_range' (hlen : xs.length ≤ maxCount) (limit : ℕ) : ∀ k : ℕ,
    ((List.range' 1 k).map fun n => ofList xs n limit).flatMap (·.items) = xs.take (k * limit)
  | 0 => by rw [Nat.zero_mul, List.take_zero]; rfl
  | k + 1 => by
      rw [List.range'_1_concat, List.map_append, List.flatMap_append,
        flatMap_items_range' hlen limit k, Nat.succ_mul, List.take_add, Nat.add_comm 1 k]
      simp only [List.map_cons, List.map_nil, List.flatMap_cons, List.flatMap_nil, List.append_nil,
        items_ofList hlen, Nat.add_sub_cancel]

theorem lt_ceilDiv_iff (hlimit : 1 ≤ limit) {total : ℕ} :
    n < total ⌈/⌉ limit ↔ n * limit < total := by
  rw [← not_le, ceilDiv_le_iff_le_mul hlimit, not_le, Nat.mul_comm]

theorem flatMap_items_pagesOf (hlen : xs.length ≤ maxCount) (hlimit : 1 ≤ limit) :
    (pagesOf xs limit).flatMap (·.items) = xs := by
  rw [pagesOf, flatMap_items_range' hlen, List.take_of_length_le]
  rw [← not_lt, ← lt_ceilDiv_iff hlimit]
  omega

theorem hasNext_iff_lt (hlen : xs.length ≤ maxCount) (hlimit : 1 ≤ limit) (hn : 1 ≤ n) :
    (ofList xs n limit).hasNext = true ↔ n < max 1 (xs.length ⌈/⌉ limit) := by
  rw [hasNext_ofList_iff hlen hn, ← lt_ceilDiv_iff hlimit]
  omega

theorem length_items_of_mem_dropLast (hlen : xs.length ≤ maxCount) (hlimit : 1 ≤ limit)
    {p : Page α} (h : p ∈ (pagesOf xs limit).dropLast) : p.items.length = limit := by
  obtain ⟨k, hk⟩ := Nat.exists_eq_add_of_le (Nat.le_max_left 1 (xs.length ⌈/⌉ limit))
  rw [pagesOf, hk, Nat.add_comm, List.range'_1_concat, List.map_append, List.map_singleton,
    List.dropLast_concat] at h
  obtain ⟨n, hn, rfl⟩ := List.mem_map.1 h
  obtain ⟨hn, hlt⟩ := List.mem_range'_1.1 hn
  have hbefore : n < xs.length ⌈/⌉ limit := by omega
  have hnext := (lt_ceilDiv_iff hlimit).1 hbefore
  rw [← Nat.sub_add_cancel hn, Nat.succ_mul] at hnext
  rw [items_ofList hlen, List.length_take, List.length_drop]
  omega

/-! ## Going from page to page -/

/-- The pages that are read from a page on, asking for the next one as long as there is one. -/
inductive Walk (fetch : ℕ → Except ε (Page α)) : ℕ → List (Page α) → Prop
  | last {n : ℕ} {p : Page α} : fetch n = .ok p → p.hasNext = false → Walk fetch n [p]
  | next {n : ℕ} {p : Page α} {ps : List (Page α)} : fetch n = .ok p → p.hasNext = true →
      Walk fetch (n + 1) ps → Walk fetch n (p :: ps)

variable {fetch : ℕ → Except ε (Page α)}

theorem Walk.unique {ps ps' : List (Page α)} (h : Walk fetch n ps) (h' : Walk fetch n ps') :
    ps = ps' := by
  induction h generalizing ps' with
  | last hp hlast =>
      cases h' with
      | last hp' => rw [Except.ok.inj (hp.symm.trans hp')]
      | next hp' hnext =>
          rw [← Except.ok.inj (hp.symm.trans hp'), hlast] at hnext
          cases hnext
  | next hp hnext _ ih =>
      cases h' with
      | last hp' hlast =>
          rw [← Except.ok.inj (hp.symm.trans hp'), hnext] at hlast
          cases hlast
      | next hp' _ hps' => rw [Except.ok.inj (hp.symm.trans hp'), ih hps']

/-- Pages in a row of which only the last has no next page. -/
theorem walk_range' {page : ℕ → Page α} : ∀ {k n : ℕ},
    (∀ m, n ≤ m → m ≤ n + k → fetch m = .ok (page m) ∧ ((page m).hasNext = true ↔ m < n + k)) →
      Walk fetch n ((List.range' n (k + 1)).map page)
  | 0, n, h => by
      obtain ⟨hp, hnext⟩ := h n (by omega) (by omega)
      exact .last hp (Bool.eq_false_iff.2 fun e => by have := hnext.1 e; omega)
  | k + 1, n, h => by
      obtain ⟨hp, hnext⟩ := h n (by omega) (by omega)
      have hrest : ∀ m, n + 1 ≤ m → m ≤ n + 1 + k →
          fetch m = .ok (page m) ∧ ((page m).hasNext = true ↔ m < n + 1 + k) := by
        intro m hnm hmk
        rw [Nat.add_right_comm, Nat.add_assoc]
        exact h m (by omega) (by omega)
      exact .next hp (hnext.2 (by omega)) (walk_range' hrest)

theorem walk_pagesOf (hlen : xs.length ≤ maxCount) (hlimit : 1 ≤ limit)
    (hfetch : ∀ n, 1 ≤ n → n ≤ maxCount → fetch n = .ok (ofList xs n limit)) :
    Walk fetch 1 (pagesOf xs limit) := by
  have hcount : max 1 (xs.length ⌈/⌉ limit) ≤ maxCount := by
    have hceil : xs.length ⌈/⌉ limit ≤ xs.length := by
      rw [ceilDiv_le_iff_le_mul hlimit]
      exact Nat.le_mul_of_pos_left _ hlimit
    exact max_le (by decide) (hceil.trans hlen)
  obtain ⟨k, hk⟩ := Nat.exists_eq_add_of_le (Nat.le_max_left 1 (xs.length ⌈/⌉ limit))
  rw [pagesOf, hk, Nat.add_comm]
  refine walk_range' fun m hm hmk => ⟨hfetch m hm (by omega), ?_⟩
  rw [hasNext_iff_lt hlen hlimit hm, hk]

end RecordQuery.Page
