import RecordQuery.Predicate
import RecordQuery.Proofs.Comparison.Operators
import RecordQuery.Proofs.Instant

/-!
# Ranges of dates

A range of dates is open at bounds that lie one second outside its ends. It exists exactly when the
calendar has these bounds (`exists_dateBetween_iff`). Every range that exists contains both its ends
and all between them, and nothing at the bounds or beyond (`coversDates_of_dateBetween`).
-/

namespace RecordQuery

/-- The field at the path is the instant, or text that writes it, under any optionals. -/
def Record.HasInstant (r : Record) (path : FieldPath) (t : Instant) : Prop :=
  ∃ v, r.resolve path = .ok v ∧ v.deref.bind Condition.instant? = some t

namespace Predicate

variable {path : FieldPath} {start finish lower upper t bound : Instant} {r : Record}
  {p : Predicate}

/-! ## One bound -/

theorem holds_after_iff (h : r.HasInstant path t) :
    (onField path (.after bound)).holds r = true ↔ bound.compare t = .lt := by
  obtain ⟨v, hv, ht⟩ := h
  have htest : (onField path (.after bound)).holds r = (t.compare bound == .gt) := by
    rw [onField, holds, Clause.holds, hv]
    exact (Condition.test_after bound v).trans (by rw [ht]; rfl)
  rw [htest, beq_iff_eq, Instant.compare_eq_gt_iff]

theorem holds_before_iff (h : r.HasInstant path t) :
    (onField path (.before bound)).holds r = true ↔ t.compare bound = .lt := by
  obtain ⟨v, hv, ht⟩ := h
  have htest : (onField path (.before bound)).holds r = (t.compare bound == .lt) := by
    rw [onField, holds, Clause.holds, hv]
    exact (Condition.test_before bound v).trans (by rw [ht]; rfl)
  rw [htest, beq_iff_eq]

/-! ## Both bounds -/

theorem dateBetween_eq_ok_iff : dateBetween path start finish = .ok p ↔
    ∃ lower upper, start.addSeconds? (-1) = some lower ∧ finish.addSeconds? 1 = some upper ∧
      p = all [onField path (.after lower), onField path (.before upper)] := by
  unfold dateBetween
  cases start.addSeconds? (-1) with
  | none => simp
  | some lower =>
      cases finish.addSeconds? 1 with
      | none => simp
      | some upper => simp [eq_comm]

/-- A range exists when a second can be taken from its start and added to its end. -/
theorem exists_dateBetween_iff : (∃ p, dateBetween path start finish = .ok p) ↔
    firstSecond < start.seconds ∧ finish.seconds < lastSecond := by
  rw [← Instant.exists_addSeconds?_neg_one_iff, ← Instant.exists_addSeconds?_one_iff]
  simp only [dateBetween_eq_ok_iff]
  constructor
  · rintro ⟨_, lower, upper, hlower, hupper, -⟩
    exact ⟨⟨lower, hlower⟩, upper, hupper⟩
  · rintro ⟨⟨lower, hlower⟩, upper, hupper⟩
    exact ⟨_, lower, upper, hlower, hupper, rfl⟩

theorem holds_bounds_iff (h : r.HasInstant path t) :
    (all [onField path (.after lower), onField path (.before upper)]).holds r = true ↔
      lower.compare t = .lt ∧ t.compare upper = .lt := by
  rw [holds_all_iff, List.forall_mem_cons, List.forall_mem_singleton, holds_after_iff h,
    holds_before_iff h]

/-! ## What a range contains -/

/-- The predicate holds of the instants from start to finish, and of none that is a second before
the start or earlier, or a second after the finish or later. -/
structure CoversDates (p : Predicate) (path : FieldPath) (start finish : Instant) : Prop where
  inside : ∀ (r : Record) (t : Instant), r.HasInstant path t →
    start.compare t ≠ .gt → t.compare finish ≠ .gt → p.holds r = true
  early : ∀ (r : Record) (t lower : Instant), r.HasInstant path t →
    start.addSeconds? (-1) = some lower → t.compare lower ≠ .gt → p.holds r = false
  late : ∀ (r : Record) (t upper : Instant), r.HasInstant path t →
    finish.addSeconds? 1 = some upper → upper.compare t ≠ .gt → p.holds r = false

theorem coversDates_of_dateBetween (h : dateBetween path start finish = .ok p) :
    CoversDates p path start finish := by
  obtain ⟨lower, upper, hlower, hupper, rfl⟩ := dateBetween_eq_ok_iff.1 h
  have hstart := Instant.compare_eq_lt_iff.1 (Instant.compare_addSeconds?_neg_one hlower)
  have hfinish := Instant.compare_eq_lt_iff.1 (Instant.compare_addSeconds?_one hupper)
  refine ⟨fun r t ht hge hle => ?_, fun r t lower' ht hlower' hle => ?_,
    fun r t upper' ht hupper' hge => ?_⟩
  · rw [Instant.compare_ne_gt_iff] at hge hle
    rw [holds_bounds_iff ht, Instant.compare_eq_lt_iff, Instant.compare_eq_lt_iff]
    omega
  · obtain rfl : lower = lower' := Option.some.inj (hlower.symm.trans hlower')
    rw [← Bool.not_eq_true, holds_bounds_iff ht]
    exact fun hholds => hle (Instant.compare_eq_gt_iff.2 hholds.1)
  · obtain rfl : upper = upper' := Option.some.inj (hupper.symm.trans hupper')
    rw [← Bool.not_eq_true, holds_bounds_iff ht]
    exact fun hholds => hge (Instant.compare_eq_gt_iff.2 hholds.2)

/-- A range of dates exists unless it starts in the first second of the calendar or ends in the
last one, and every range that exists covers its dates. -/
theorem dateBetween_covers (path : FieldPath) (start finish : Instant) :
    ((∃ p, dateBetween path start finish = .ok p) ↔
      firstSecond < start.seconds ∧ finish.seconds < lastSecond) ∧
    ∀ p, dateBetween path start finish = .ok p → CoversDates p path start finish :=
  ⟨exists_dateBetween_iff, fun _ => coversDates_of_dateBetween⟩

/-- Ranges without a bound on one side, written with the ends of the calendar, do not exist. -/
theorem dateBetween_at_ends :
    let first : Instant := ⟨firstSecond, 0, by decide, by decide, by decide, by decide⟩
    let last : Instant := ⟨lastSecond, 999999999, by decide, by decide, by decide, by decide⟩
    dateBetween (.parse "released") first .epoch = .error .beforeFirst ∧
      dateBetween (.parse "released") .epoch last = .error .afterLast := by
  intro first last
  have hfirst : first.addSeconds? (-1) = none := by decide +kernel
  have hlast : last.addSeconds? 1 = none := by decide +kernel
  have hepoch : Instant.epoch.addSeconds? (-1) = some ⟨-1, 0, by decide, by decide, by decide,
    by decide⟩ := by decide +kernel
  constructor
  · rw [dateBetween, hfirst]
  · rw [dateBetween, hepoch, hlast]

end Predicate

end RecordQuery
