import RecordQuery.Number
import RecordQuery.Proofs.Binary.Conversion

/-!
# Numbers of different formats

Two defined numbers are compared by rounding both to the coarser of their formats and comparing
integers there (`compare_eq`). Rounding on to a format that is coarser still may make two numbers
one but never exchanges them (`keyAt_mono`). This is why the order goes through a number that is not
the coarsest of the three, and the only way for it not to go through the coarsest is that both
others become equal to it (`compare_trans_or_blurs`).
-/

namespace RecordQuery.Number

variable {a b c : Number}

/-! ## Rounding to a format -/

/-- How coarse the format of a number is: integers are exact, and single precision is coarser than
double precision. -/
def grain : Number → ℕ
  | integer _ => 0
  | double _ => 1
  | single _ => 2

/-- An integer that orders the numbers rounded to a format, for numbers that are no coarser. -/
def keyAt : ℕ → Number → ℤ
  | 0, integer n => n.value
  | 1, a => a.toDouble.key
  | _, a => a.toSingle.key

theorem isNaN_toDouble : ∀ a : Number, a.toDouble.isNaN = a.isNaN
  | integer _ => Binary.isNaN_ofInt _
  | single x => Binary.isNaN_convert x
  | double _ => rfl

theorem toSingle_eq_convert (h : a.grain ≤ 1) : a.toSingle = a.toDouble.convert .single := by
  cases a with
  | integer _ => rfl
  | double _ => rfl
  | single _ => exact absurd h (Nat.not_succ_le_self 1)

theorem isNaN_toSingle (a : Number) : a.toSingle.isNaN = a.isNaN := by
  cases a with
  | single _ => rfl
  | integer n => exact (Binary.isNaN_convert _).trans (isNaN_toDouble (integer n))
  | double x => exact Binary.isNaN_convert x

theorem keyAt_succ_le {g : ℕ} (ha : a.grain ≤ g) (hb : b.grain ≤ g) (hna : a.isNaN = false)
    (hnb : b.isNaN = false) (h : a.keyAt g ≤ b.keyAt g) : a.keyAt (g + 1) ≤ b.keyAt (g + 1) := by
  match g, ha, hb, h with
  | 0, ha, hb, h =>
      cases a <;> cases b <;> simp only [grain, Nat.le_zero, reduceCtorEq] at ha hb
      exact Binary.ofInt_mono h
  | 1, ha, hb, h =>
      change a.toSingle.key ≤ b.toSingle.key
      rw [toSingle_eq_convert ha, toSingle_eq_convert hb]
      exact Binary.convert_mono ((isNaN_toDouble a).trans hna) ((isNaN_toDouble b).trans hnb) h
  | _ + 2, _, _, h => exact h

theorem keyAt_mono {g k : ℕ} (hg : g ≤ k) (ha : a.grain ≤ g) (hb : b.grain ≤ g)
    (hna : a.isNaN = false) (hnb : b.isNaN = false) (h : a.keyAt g ≤ b.keyAt g) :
    a.keyAt k ≤ b.keyAt k := by
  induction k, hg using Nat.le_induction with
  | base => exact h
  | succ k hk ih => exact keyAt_succ_le (ha.trans hk) (hb.trans hk) hna hnb ih

/-! ## Comparison -/

theorem compare_eq (hna : a.isNaN = false) (hnb : b.isNaN = false) : a.compare b =
    some (Ord.compare (a.keyAt (max a.grain b.grain)) (b.keyAt (max a.grain b.grain))) := by
  have hda := (isNaN_toDouble a).trans hna
  have hdb := (isNaN_toDouble b).trans hnb
  have hsa := (isNaN_toSingle a).trans hna
  have hsb := (isNaN_toSingle b).trans hnb
  cases a <;> cases b <;> first
    | rfl
    | exact Binary.compare_eq hsa hsb
    | exact Binary.compare_eq hda hdb

theorem compare_swap (a b : Number) : (a.compare b).map Ordering.swap = b.compare a := by
  cases a <;> cases b <;> first
    | exact Binary.compare_swap _ _
    | exact congrArg some Std.OrientedOrd.eq_swap.symm

theorem compare_self (h : a.isNaN = false) : a.compare a = some .eq := by
  rw [compare_eq h h, Std.ReflOrd.compare_self]

theorem compare_ne_gt_iff (hna : a.isNaN = false) (hnb : b.isNaN = false) :
    a.compare b ≠ some .gt ↔
      a.keyAt (max a.grain b.grain) ≤ b.keyAt (max a.grain b.grain) := by
  rw [compare_eq hna hnb, ne_eq, Option.some.injEq, ← ne_eq, Int.compare_ne_gt]

/-! ## When the order goes through -/

/-- Two numbers of finer formats become equal to `b` when they are rounded to its format. -/
def Blurs (b a c : Number) : Prop :=
  a.grain < b.grain ∧ c.grain < b.grain ∧
    a.keyAt b.grain = b.keyAt b.grain ∧ c.keyAt b.grain = b.keyAt b.grain

theorem Blurs.symm (h : b.Blurs a c) : b.Blurs c a := ⟨h.2.1, h.1, h.2.2.2, h.2.2.1⟩

theorem Blurs.compare_eq (h : b.Blurs a c) (hna : a.isNaN = false) (hnb : b.isNaN = false) :
    a.compare b = some .eq := by
  rw [Number.compare_eq hna hnb, max_eq_right h.1.le, h.2.2.1, Std.ReflOrd.compare_self]

/-- The order goes through a number, unless the two others become equal to it. -/
theorem compare_trans_or_blurs (hna : a.isNaN = false) (hnb : b.isNaN = false)
    (hnc : c.isNaN = false) (hab : a.compare b ≠ some .gt) (hbc : b.compare c ≠ some .gt) :
    a.compare c ≠ some .gt ∨ b.Blurs a c := by
  rw [compare_ne_gt_iff hna hnb] at hab
  rw [compare_ne_gt_iff hnb hnc] at hbc
  rw [compare_ne_gt_iff hna hnc]
  by_cases hgrain : b.grain ≤ max a.grain c.grain
  · -- all three can be compared in the format of the coarser end
    left
    have hab' := keyAt_mono (k := max a.grain c.grain) (by omega) (by omega) (by omega) hna hnb hab
    have hbc' := keyAt_mono (k := max a.grain c.grain) (by omega) (by omega) (by omega) hnb hnc hbc
    exact hab'.trans hbc'
  · -- in the format of the middle number the ends are in order both ways, if they are not before
    rw [or_iff_not_imp_left, not_le]
    intro hca
    have hca' := keyAt_mono (k := b.grain) (by omega) (by omega) (by omega) hnc hna hca.le
    rw [max_eq_right (by omega)] at hab
    rw [max_eq_left (by omega)] at hbc
    exact ⟨by omega, by omega, hab.antisymm (hbc.trans hca'), (hca'.trans hab).antisymm hbc⟩

end RecordQuery.Number
