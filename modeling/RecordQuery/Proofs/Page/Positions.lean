import RecordQuery.Proofs.Page

/-!
# The positions of a page

A page is cut between a start and a stop that are words: a product or a sum that would pass the
greatest word stays at it, and both are kept within the list. The start never lies behind the stop
(`start_le_stop`), and of a list that can be counted the page holds exactly the positions that
unbounded arithmetic gives it (`ofList_positions`).
-/

namespace RecordQuery.Page

variable {α : Type}

/-! ## Positions of a list -/

theorem filter_le_zipIdx (xs : List α) (a k : ℕ) :
    ((xs.zipIdx k).filter fun x => k + a ≤ x.2) = (xs.drop a).zipIdx (k + a) := by
  induction xs generalizing a k with
  | nil => simp
  | cons x xs ih =>
      cases a with
      | zero =>
          rw [Nat.add_zero, List.drop_zero, List.filter_eq_self]
          exact fun y hy => decide_eq_true (List.le_snd_of_mem_zipIdx hy)
      | succ a =>
          have hk : k + (a + 1) = k + 1 + a := by omega
          rw [List.zipIdx_cons, List.filter_cons_of_neg (by simp), List.drop_succ_cons, hk]
          exact ih a (k + 1)

theorem filter_lt_zipIdx (xs : List α) (b k : ℕ) :
    ((xs.zipIdx k).filter fun x => x.2 < k + b) = (xs.take b).zipIdx k := by
  induction xs generalizing b k with
  | nil => simp
  | cons x xs ih =>
      cases b with
      | zero =>
          rw [Nat.add_zero, List.take_zero, List.zipIdx_nil, List.filter_eq_nil_iff]
          intro y hy hlt
          exact absurd (of_decide_eq_true hlt) (Nat.not_lt.2 (List.le_snd_of_mem_zipIdx hy))
      | succ b =>
          have hk : k + (b + 1) = k + 1 + b := by omega
          rw [List.zipIdx_cons, List.filter_cons_of_pos (by simp), List.take_succ_cons,
            List.zipIdx_cons, hk, ih b (k + 1)]

theorem map_filter_zipIdx (xs : List α) {a b : ℕ} (hab : a ≤ b) :
    ((xs.zipIdx.filter fun x => a ≤ x.2 ∧ x.2 < b).map (·.1)) = (xs.drop a).take (b - a) := by
  have hfrom := filter_le_zipIdx xs a 0
  have hto := filter_lt_zipIdx (xs.drop a) (b - a) a
  rw [Nat.zero_add] at hfrom
  rw [Nat.add_sub_cancel' hab, ← hfrom, List.filter_filter] at hto
  have hboth : (xs.zipIdx.filter fun x => a ≤ x.2 ∧ x.2 < b) =
      ((xs.drop a).take (b - a)).zipIdx a := by
    rw [← hto]
    exact List.filter_congr fun x _ => by rw [Bool.decide_and, Bool.and_comm]
  rw [hboth, List.zipIdx_map_fst]

/-! ## The ends of a page -/

def start (total n limit : ℕ) : ℕ := min (min ((n - 1) * limit) maxCount) total

def stop (total n limit : ℕ) : ℕ := min (min (start total n limit + limit) maxCount) total

theorem ofList_eq (xs : List α) (n limit : ℕ) : ofList xs n limit =
    { items := (xs.drop (start xs.length n limit)).take
        (stop xs.length n limit - start xs.length n limit)
      total := xs.length, page := n, limit
      hasNext := stop xs.length n limit < xs.length } :=
  rfl

theorem start_le_stop (total n limit : ℕ) : start total n limit ≤ stop total n limit := by
  unfold stop start
  omega

/-! ## Exact pages -/

/-- A page of a list that can be counted holds exactly the items from position `(n - 1) * limit` up
to position `n * limit`, without a bound on the products, and says that there is a next page exactly
when the list goes on after them. It is cut from the start to the stop, which does not lie before
the start. -/
theorem ofList_positions (xs : List α) (n limit : ℕ) (hlen : xs.length < 2 ^ 64) (hn : 1 ≤ n) :
    (ofList xs n limit).items =
        (xs.zipIdx.filter fun x => (n - 1) * limit ≤ x.2 ∧ x.2 < n * limit).map (·.1) ∧
      (ofList xs n limit).total = xs.length ∧ (ofList xs n limit).page = n ∧
      (ofList xs n limit).limit = limit ∧
      ((ofList xs n limit).hasNext = true ↔ n * limit < xs.length) ∧
      (ofList xs n limit).items = (xs.drop (start xs.length n limit)).take
        (stop xs.length n limit - start xs.length n limit) ∧
      start xs.length n limit ≤ stop xs.length n limit := by
  have hcount : xs.length ≤ maxCount := Nat.le_sub_one_of_lt hlen
  have hmul : n * limit = (n - 1) * limit + limit := by
    rw [← Nat.succ_mul, Nat.succ_eq_add_one, Nat.sub_add_cancel hn]
  have hitems : (ofList xs n limit).items =
      (xs.zipIdx.filter fun x => (n - 1) * limit ≤ x.2 ∧ x.2 < n * limit).map (·.1) := by
    rw [items_ofList hcount, map_filter_zipIdx xs (hmul ▸ Nat.le_add_right _ _), hmul,
      Nat.add_sub_cancel_left]
  exact ⟨hitems, rfl, rfl, rfl, hasNext_ofList_iff hcount hn,
    congrArg items (ofList_eq xs n limit), start_le_stop xs.length n limit⟩

/-- The last page of three items, and pages whose ends lie far behind the greatest word. -/
theorem ofList_positions_letters :
    let xs := ["a", "b", "c"]
    xs.length < 2 ^ 64 ∧ 1 ≤ 2 ∧ 1 ≤ 2 ^ 64 - 1 ∧
      (ofList xs 2 2).items = ["c"] ∧ (ofList xs 2 2).hasNext = false ∧
      (ofList xs (2 ^ 64 - 1) (2 ^ 64 - 1)).items = [] ∧
      (ofList xs 1 (2 ^ 64 - 1)).items = ["a", "b", "c"] := by
  intro xs
  have hlen : xs.length < 2 ^ 64 := by decide
  have hlast := ofList_positions xs 2 2 hlen (by decide)
  have hfar := ofList_positions xs (2 ^ 64 - 1) (2 ^ 64 - 1) hlen (by decide)
  have hall := ofList_positions xs 1 (2 ^ 64 - 1) hlen (by decide)
  refine ⟨hlen, by decide, by decide, hlast.1.trans (by decide), ?_, hfar.1.trans (by decide),
    hall.1.trans (by decide)⟩
  rw [← Bool.not_eq_true, hlast.2.2.2.2.1]
  decide

end RecordQuery.Page
