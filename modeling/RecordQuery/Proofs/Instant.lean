import RecordQuery.Instant

/-!
# Seconds before and after an instant

Instants are ordered by their seconds and then by their nanoseconds (`compare_eq_lt_iff`). Whole
seconds can be added when the calendar covers the second that is reached (`exists_addSeconds?_iff`).
So there is an instant a second earlier except in the first second of the calendar, and one a second
later except in its last second (`exists_addSeconds?_neg_one_iff`, `exists_addSeconds?_one_iff`).
-/

namespace RecordQuery

namespace Instant

variable {s t u : Instant}

/-! ## The order -/

theorem compare_eq_lt_iff : s.compare t = .lt ↔
    s.seconds < t.seconds ∨ s.seconds = t.seconds ∧ s.nanos < t.nanos := by
  rw [compare, Ordering.then_eq_lt, Int.compare_eq_lt, Int.compare_eq_eq, Nat.compare_eq_lt]

theorem compare_eq_gt_iff : s.compare t = .gt ↔ t.compare s = .lt := by
  rw [← compare_swap t s]
  cases t.compare s <;> decide

theorem compare_ne_gt_iff : s.compare t ≠ .gt ↔
    s.seconds < t.seconds ∨ s.seconds = t.seconds ∧ s.nanos ≤ t.nanos := by
  rw [ne_eq, compare_eq_gt_iff, compare_eq_lt_iff]
  omega

/-! ## Adding seconds -/

theorem ofSeconds?_eq_some_iff {seconds : Int} {nanos : Nat} :
    ofSeconds? seconds nanos = some u ↔ u.seconds = seconds ∧ u.nanos = nanos := by
  unfold ofSeconds?
  constructor
  · intro h
    split at h
    · cases h
      exact ⟨rfl, rfl⟩
    · cases h
  · rintro ⟨rfl, rfl⟩
    rw [dif_pos ⟨u.begun, u.ended, u.nanos_lt, u.leap_last⟩]

def secondAfter (t : Instant) (n : Int) : Int := t.seconds + n + if t.isLeap ∧ n < 0 then 1 else 0

theorem addSeconds?_eq {n : Int} (hn : n ≠ 0) (t : Instant) :
    t.addSeconds? n = ofSeconds? (t.secondAfter n) (t.nanos % 1000000000) := by
  unfold addSeconds? secondAfter
  rw [if_neg hn]
  have hnanos := t.nanos_lt
  cases hleap : t.isLeap with
  | true =>
      have hge : 1000000000 ≤ t.nanos := of_decide_eq_true hleap
      have hmod : t.nanos % 1000000000 = t.nanos - 1000000000 := by omega
      simp only [hmod, if_true, true_and]
  | false =>
      have hlt : ¬ 1000000000 ≤ t.nanos := of_decide_eq_false hleap
      have hmod : t.nanos % 1000000000 = t.nanos := by omega
      simp only [hmod, Bool.false_eq_true, if_false, false_and, Int.add_zero]

theorem addSeconds?_eq_some_iff {n : Int} (hn : n ≠ 0) : t.addSeconds? n = some u ↔
    u.seconds = t.secondAfter n ∧ u.nanos = t.nanos % 1000000000 := by
  rw [addSeconds?_eq hn, ofSeconds?_eq_some_iff]

theorem exists_addSeconds?_iff {n : Int} (hn : n ≠ 0) : (∃ u, t.addSeconds? n = some u) ↔
    firstSecond ≤ t.secondAfter n ∧ t.secondAfter n ≤ lastSecond := by
  constructor
  · rintro ⟨u, hu⟩
    obtain ⟨hseconds, -⟩ := (addSeconds?_eq_some_iff hn).1 hu
    exact hseconds ▸ ⟨u.begun, u.ended⟩
  · rintro ⟨hfirst, hlast⟩
    have hnanos : t.nanos % 1000000000 < 1000000000 := Nat.mod_lt _ (by decide)
    exact ⟨⟨t.secondAfter n, t.nanos % 1000000000, hfirst, hlast, by omega, by omega⟩,
      (addSeconds?_eq_some_iff hn).2 ⟨rfl, rfl⟩⟩

/-! ## The neighbouring seconds -/

theorem secondAfter_neg_one (t : Instant) :
    t.secondAfter (-1) = if t.isLeap then t.seconds else t.seconds - 1 := by
  unfold secondAfter
  cases t.isLeap with
  | true =>
      change t.seconds + -1 + 1 = t.seconds
      omega
  | false => simp [Int.sub_eq_add_neg]

theorem secondAfter_one (t : Instant) : t.secondAfter 1 = t.seconds + 1 := by
  simp [secondAfter]

/-- The calendar begins with a full minute, so its first second is not followed by a leap second. -/
theorem firstSecond_lt_of_isLeap (h : t.isLeap = true) : firstSecond < t.seconds := by
  have hlast := t.leap_last (of_decide_eq_true h)
  have hbegun := t.begun
  unfold firstSecond at *
  omega

theorem exists_addSeconds?_neg_one_iff :
    (∃ u, t.addSeconds? (-1) = some u) ↔ firstSecond < t.seconds := by
  rw [exists_addSeconds?_iff (by decide), secondAfter_neg_one]
  have hended := t.ended
  split
  · rename_i hleap
    have hlt := firstSecond_lt_of_isLeap hleap
    omega
  · omega

theorem exists_addSeconds?_one_iff :
    (∃ u, t.addSeconds? 1 = some u) ↔ t.seconds < lastSecond := by
  rw [exists_addSeconds?_iff (by decide), secondAfter_one]
  have hbegun := t.begun
  omega

theorem compare_addSeconds?_neg_one (h : t.addSeconds? (-1) = some u) : u.compare t = .lt := by
  obtain ⟨hseconds, hnanos⟩ := (addSeconds?_eq_some_iff (by decide)).1 h
  rw [compare_eq_lt_iff, hseconds, hnanos, secondAfter_neg_one]
  split
  · rename_i hleap
    have hge : 1000000000 ≤ t.nanos := of_decide_eq_true hleap
    omega
  · omega

theorem compare_addSeconds?_one (h : t.addSeconds? 1 = some u) : t.compare u = .lt := by
  obtain ⟨hseconds, -⟩ := (addSeconds?_eq_some_iff (by decide)).1 h
  rw [compare_eq_lt_iff, hseconds, secondAfter_one]
  omega

end Instant

end RecordQuery
