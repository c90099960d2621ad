import Mathlib.Algebra.Order.Field.Power
import Mathlib.Data.Int.Log
import Mathlib.Data.Rat.Floor
import Mathlib.Tactic.Linarith
import Mathlib.Tactic.Positivity
import Mathlib.Tactic.Ring
import RecordQuery.Binary.Basic

/-!
# Rounding keeps the order

A ratio that is no greater than another rounds to a magnitude that is no greater
(`roundRatio_mono`). Ratios are compared as rational numbers: `scale` divides by a power of two
(`ratioValue_scale`), and `floorLog2` is the integer logarithm (`floorLog2_eq_log`). Two ratios on
one grid round in order because `roundDiv` does; on different grids the coarser one begins where the
finer one ends.
-/

namespace RecordQuery.Binary

/-! ## Ratios as rational numbers -/

def ratioValue (x : ℕ × ℕ) : ℚ := x.1 / x.2

theorem cast_mul_two_pow (k n : ℕ) : ((k * Nat.pow 2 n : ℕ) : ℚ) = k * 2 ^ n := by
  rw [Nat.pow_eq, Nat.cast_mul, Nat.cast_pow, Nat.cast_ofNat]

theorem ratioValue_le_iff {x y : ℕ × ℕ} (hx : 0 < x.2) (hy : 0 < y.2) :
    ratioValue x ≤ ratioValue y ↔ x.1 * y.2 ≤ y.1 * x.2 := by
  unfold ratioValue
  rw [div_le_div_iff₀ (by exact_mod_cast hx) (by exact_mod_cast hy)]
  exact_mod_cast Iff.rfl

theorem ratioValue_two_pow (n : ℕ) : ratioValue (2 ^ n, 1) = 2 ^ n := by
  rw [ratioValue, Nat.cast_pow, Nat.cast_ofNat, Nat.cast_one, div_one]

theorem scale_snd_pos {num den : ℕ} (hd : 0 < den) (q : ℤ) : 0 < (scale num den q).2 := by
  unfold scale
  split_ifs
  · exact Nat.mul_pos hd (Nat.two_pow_pos _)
  · exact hd

theorem ratioValue_scale (num den : ℕ) (q : ℤ) :
    ratioValue (scale num den q) = ratioValue (num, den) / 2 ^ q := by
  unfold ratioValue scale
  split_ifs with h
  · obtain ⟨n, rfl⟩ := Int.eq_ofNat_of_zero_le h
    rw [Int.toNat_natCast, cast_mul_two_pow, zpow_natCast, div_div]
  · obtain ⟨n, hn⟩ := Int.eq_ofNat_of_zero_le (show 0 ≤ -q by omega)
    obtain rfl : q = -n := by omega
    rw [neg_neg, Int.toNat_natCast, cast_mul_two_pow, zpow_neg, zpow_natCast, div_inv_eq_mul]
    ring

theorem scale_le_iff {num den : ℕ} (hd : 0 < den) (q : ℤ) :
    (scale num den q).2 ≤ (scale num den q).1 ↔ (2 : ℚ) ^ q ≤ ratioValue (num, den) := by
  have hs : (0 : ℚ) < (scale num den q).2 := by exact_mod_cast scale_snd_pos hd q
  have hq : (0 : ℚ) < 2 ^ q := by positivity
  rw [← one_mul ((2 : ℚ) ^ q), ← le_div_iff₀ hq, ← ratioValue_scale, ratioValue, le_div_iff₀ hs,
    one_mul, Nat.cast_le]

/-! ## The binary logarithm -/

theorem log_ratioValue_eq {e : ℤ} {x : ℚ} (hle : (2 : ℚ) ^ e ≤ x) (hlt : x < (2 : ℚ) ^ (e + 1)) :
    Int.log 2 x = e := by
  have hx : 0 < x := lt_of_lt_of_le (by positivity) hle
  have h₁ : e ≤ Int.log 2 x := (Int.zpow_le_iff_le_log (by decide) hx).1 (by exact_mod_cast hle)
  have h₂ : Int.log 2 x < e + 1 :=
    (Int.lt_zpow_iff_log_lt (by decide) hx).1 (by exact_mod_cast hlt)
  omega

theorem floorLog2_eq_log {num den : ℕ} (hn : 0 < num) (hd : 0 < den) :
    floorLog2 num den = Int.log 2 (ratioValue (num, den)) := by
  have hn₁ : (2 : ℚ) ^ num.log2 ≤ num := by exact_mod_cast Nat.log2_self_le hn.ne'
  have hn₂ : (num : ℚ) < 2 ^ (num.log2 + 1) := by exact_mod_cast Nat.lt_log2_self
  have hd₁ : (2 : ℚ) ^ den.log2 ≤ den := by exact_mod_cast Nat.log2_self_le hd.ne'
  have hd₂ : (den : ℚ) < 2 ^ (den.log2 + 1) := by exact_mod_cast Nat.lt_log2_self
  have hden : (0 : ℚ) < den := by exact_mod_cast hd
  -- the quotient of the leading powers is off by a factor of two at most
  have hupper : ratioValue (num, den) < (2 : ℚ) ^ ((num.log2 : ℤ) - den.log2 + 1) := by
    rw [ratioValue, div_lt_iff₀ hden]
    calc (num : ℚ) < 2 ^ (num.log2 + 1) := hn₂
      _ = 2 ^ ((num.log2 : ℤ) - den.log2 + 1) * 2 ^ den.log2 := by
          rw [← zpow_natCast, ← zpow_natCast, ← zpow_add₀ two_ne_zero]
          congr 1
          push_cast
          ring
      _ ≤ _ := by gcongr
  have hlower : (2 : ℚ) ^ ((num.log2 : ℤ) - den.log2 - 1) ≤ ratioValue (num, den) := by
    rw [ratioValue, le_div_iff₀ hden]
    calc (2 : ℚ) ^ ((num.log2 : ℤ) - den.log2 - 1) * den
        ≤ 2 ^ ((num.log2 : ℤ) - den.log2 - 1) * 2 ^ (den.log2 + 1) := by gcongr
      _ = 2 ^ num.log2 := by
          rw [← zpow_natCast, ← zpow_natCast, ← zpow_add₀ two_ne_zero]
          congr 1
          push_cast
          ring
      _ ≤ num := hn₁
  unfold floorLog2
  dsimp only
  split_ifs with h
  · exact (log_ratioValue_eq ((scale_le_iff hd _).1 h) hupper).symm
  · have hlt := not_le.1 (mt (scale_le_iff hd _).2 h)
    exact (log_ratioValue_eq hlower (by rwa [sub_add_cancel])).symm

/-! ## Rounding on one grid -/

theorem roundDiv_mono {num den num' den' : ℕ} (hd : 0 < den) (hd' : 0 < den')
    (h : num * den' ≤ num' * den) : roundDiv num den ≤ roundDiv num' den' := by
  have hdiv : num / den ≤ num' / den' := by
    rw [Nat.le_div_iff_mul_le hd']
    have : num / den * den' * den ≤ num' * den := by
      calc num / den * den' * den = num / den * den * den' := by ring
        _ ≤ num * den' := Nat.mul_le_mul_right _ (Nat.div_mul_le_self num den)
        _ ≤ num' * den := h
    exact Nat.le_of_mul_le_mul_right this hd
  rcases Nat.lt_or_eq_of_le hdiv with hlt | heq
  · have h₁ := roundDiv_le_succ num den
    have h₂ := roundDiv_le num' den'
    omega
  · -- with equal quotients the remainders decide, and they are in order
    have hmod : num % den * den' ≤ num' % den' * den := by
      have e := Nat.div_add_mod num den
      have e' := Nat.div_add_mod num' den'
      rw [← e, ← e', heq] at h
      have hsplit : den * (num' / den') * den' = den' * (num' / den') * den := by ring
      rw [Nat.add_mul, Nat.add_mul, hsplit] at h
      exact Nat.le_of_add_le_add_left h
    unfold roundDiv
    rw [heq]
    split_ifs with h₁ h₂
    · omega
    · omega
    · -- the first is rounded up, so it is at the half or above; the second is not above the half
      exfalso
      have hge : den ≤ 2 * (num % den) := by omega
      have hle : 2 * (num' % den') ≤ den' := by omega
      have hprod : den * den' = 2 * (num % den) * den' := by nlinarith
      have hprod' : 2 * (num' % den') * den = den' * den := by nlinarith
      have e₁ : den = 2 * (num % den) := Nat.eq_of_mul_eq_mul_right hd' hprod
      have e₂ : 2 * (num' % den') = den' := Nat.eq_of_mul_eq_mul_right hd hprod'
      omega
    · omega

theorem le_roundDiv {k num den : ℕ} (hd : 0 < den) (h : k * den ≤ num) : k ≤ roundDiv num den :=
  ((Nat.le_div_iff_mul_le hd).2 h).trans (roundDiv_le num den)

theorem roundDiv_le_of_le {k num den : ℕ} (hd : 0 < den) (h : num ≤ k * den) :
    roundDiv num den ≤ k := by
  have : roundDiv num den ≤ roundDiv (k * den) den :=
    roundDiv_mono hd hd (Nat.mul_le_mul_right den h)
  rwa [roundDiv_mul k hd] at this

/-! ## Rounding to a precision -/

variable (p : Precision)

def gridExponent (num den : ℕ) : ℤ := max (floorLog2 num den - p.fractionBits) p.unitExponent

/-- The numerator and the denominator of a ratio in steps of its grid. -/
def onGrid (num den : ℕ) : ℕ × ℕ := scale num den (gridExponent p num den)

theorem roundRatio_eq {num : ℕ} (hn : num ≠ 0) (den : ℕ) : roundRatio p num den =
    min (roundDiv (onGrid p num den).1 (onGrid p num den).2 +
      (gridExponent p num den - p.unitExponent).toNat * 2 ^ p.fractionBits) p.infinity := by
  rw [roundRatio, if_neg hn]
  rfl

theorem roundRatio_zero (den : ℕ) : roundRatio p 0 den = 0 := rfl

theorem gridExponent_mono {num den num' den' : ℕ} (hn : 0 < num) (hd : 0 < den) (hn' : 0 < num')
    (hd' : 0 < den') (h : ratioValue (num, den) ≤ ratioValue (num', den')) :
    gridExponent p num den ≤ gridExponent p num' den' := by
  have hpos : 0 < ratioValue (num, den) := by unfold ratioValue; positivity
  have hlog := Int.log_mono_right (b := 2) hpos h
  unfold gridExponent
  rw [floorLog2_eq_log hn hd, floorLog2_eq_log hn' hd']
  omega

/-- On its grid a ratio is at most one binade. -/
theorem roundDiv_onGrid_le {num den : ℕ} (hn : 0 < num) (hd : 0 < den) :
    roundDiv (onGrid p num den).1 (onGrid p num den).2 ≤ 2 ^ (p.fractionBits + 1) := by
  refine roundDiv_le_of_le (scale_snd_pos hd _) ?_
  have hlt : ratioValue (num, den) < 2 ^ (floorLog2 num den + 1) := by
    rw [floorLog2_eq_log hn hd]
    exact_mod_cast Int.lt_zpow_succ_log_self (by decide) (ratioValue (num, den))
  have hgrid : floorLog2 num den + 1 ≤ p.fractionBits + 1 + gridExponent p num den := by
    unfold gridExponent
    omega
  have hvalue : ratioValue (onGrid p num den) ≤ ratioValue (2 ^ (p.fractionBits + 1), 1) := by
    rw [onGrid, ratioValue_scale, div_le_iff₀ (by positivity), ratioValue_two_pow]
    calc ratioValue (num, den) ≤ 2 ^ (floorLog2 num den + 1) := hlt.le
      _ ≤ 2 ^ (((p.fractionBits + 1 : ℕ) : ℤ) + gridExponent p num den) :=
          zpow_le_zpow_right₀ (by norm_num) hgrid
      _ = 2 ^ (p.fractionBits + 1) * 2 ^ gridExponent p num den := by
          rw [zpow_add₀ two_ne_zero, zpow_natCast]
  have := (ratioValue_le_iff (scale_snd_pos hd _) one_pos).1 hvalue
  rwa [mul_one] at this

/-- Above the finest grid a ratio is at least one binade on its grid. -/
theorem le_roundDiv_onGrid {num den : ℕ} (hn : 0 < num) (hd : 0 < den)
    (hgrid : p.unitExponent < gridExponent p num den) :
    2 ^ p.fractionBits ≤ roundDiv (onGrid p num den).1 (onGrid p num den).2 := by
  refine le_roundDiv (scale_snd_pos hd _) ?_
  have hle : (2 : ℚ) ^ floorLog2 num den ≤ ratioValue (num, den) := by
    rw [floorLog2_eq_log hn hd]
    have hpos : 0 < ratioValue (num, den) := by unfold ratioValue; positivity
    exact_mod_cast Int.zpow_log_le_self (by decide) hpos
  have hlog : floorLog2 num den = p.fractionBits + gridExponent p num den := by
    unfold gridExponent at hgrid ⊢
    omega
  have hvalue : ratioValue (2 ^ p.fractionBits, 1) ≤ ratioValue (onGrid p num den) := by
    rw [onGrid, ratioValue_scale, le_div_iff₀ (by positivity), ratioValue_two_pow]
    calc (2 : ℚ) ^ p.fractionBits * 2 ^ gridExponent p num den
        = 2 ^ floorLog2 num den := by rw [hlog, zpow_add₀ two_ne_zero, zpow_natCast]
      _ ≤ ratioValue (num, den) := hle
  have := (ratioValue_le_iff one_pos (scale_snd_pos hd _)).1 hvalue
  rwa [mul_one] at this

theorem roundRatio_mono {num den num' den' : ℕ} (hd : 0 < den) (hd' : 0 < den')
    (h : num * den' ≤ num' * den) : roundRatio p num den ≤ roundRatio p num' den' := by
  rcases Nat.eq_zero_or_pos num with rfl | hn
  · rw [roundRatio_zero]
    exact Nat.zero_le _
  have hn' : 0 < num' := by
    have : 0 < num' * den := lt_of_lt_of_le (Nat.mul_pos hn hd') h
    exact Nat.pos_of_mul_pos_right this
  have hvalue : ratioValue (num, den) ≤ ratioValue (num', den') := (ratioValue_le_iff hd hd').2 h
  rw [roundRatio_eq p hn.ne', roundRatio_eq p hn'.ne']
  refine min_le_min_right _ ?_
  rcases (gridExponent_mono p hn hd hn' hd' hvalue).eq_or_lt with heq | hlt
  · have hsame : ratioValue (onGrid p num den) ≤ ratioValue (onGrid p num' den') := by
      rw [onGrid, onGrid, ratioValue_scale, ratioValue_scale, heq]
      gcongr
    rw [heq]
    exact Nat.add_le_add_right (roundDiv_mono (scale_snd_pos hd _) (scale_snd_pos hd' _)
      ((ratioValue_le_iff (scale_snd_pos hd _) (scale_snd_pos hd' _)).1 hsame)) _
  · have hunit : p.unitExponent ≤ gridExponent p num den := le_max_right _ _
    have hhigh := roundDiv_onGrid_le p hn hd
    have hlow := le_roundDiv_onGrid p hn' hd' (hunit.trans_lt hlt)
    -- one step of the coarser grid is worth a whole binade
    have hsteps : ((gridExponent p num den - p.unitExponent).toNat + 1) * 2 ^ p.fractionBits ≤
        (gridExponent p num' den' - p.unitExponent).toNat * 2 ^ p.fractionBits :=
      Nat.mul_le_mul_right _ (by omega)
    rw [Nat.succ_mul] at hsteps
    rw [pow_succ'] at hhigh
    omega

end RecordQuery.Binary
