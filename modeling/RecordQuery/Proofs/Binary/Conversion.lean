import RecordQuery.Proofs.Binary.Rounding

/-!
# Conversion keeps the order

A number that is no greater than another is converted to a number that is no greater
(`convert_mono`), and so is an integer (`ofInt_mono`); distinct numbers may become one. A magnitude
is a significand and a count of binades (`significand_add`), which is why values grow with it
(`ratio_mono`). Only undefined numbers are converted to undefined ones (`isNaN_convert`).
-/

namespace RecordQuery.Binary

variable {p r : Precision}

/-! ## Values grow with magnitudes -/

/-- The binades below a number, past the first. -/
def binades (x : Binary p) : ℕ := x.magnitude / 2 ^ p.fractionBits - 1

theorem significand_eq (x : Binary p) : x.significand =
    if x.magnitude / 2 ^ p.fractionBits = 0 then x.magnitude
    else x.magnitude % 2 ^ p.fractionBits + 2 ^ p.fractionBits := rfl

theorem exponent_eq (x : Binary p) : x.exponent = p.unitExponent + (x.binades : ℤ) := rfl

theorem significand_add (x : Binary p) :
    x.significand + x.binades * 2 ^ p.fractionBits = x.magnitude := by
  have hdiv := Nat.div_add_mod' x.magnitude (2 ^ p.fractionBits)
  rw [significand_eq, binades]
  split_ifs with h
  · rw [h, Nat.zero_sub, Nat.zero_mul, Nat.add_zero]
  · obtain ⟨e, he⟩ := Nat.exists_eq_succ_of_ne_zero h
    rw [he, Nat.succ_mul] at hdiv
    rw [he, Nat.succ_sub_one]
    omega

theorem significand_lt (x : Binary p) : x.significand < 2 * 2 ^ p.fractionBits := by
  have hmod := Nat.mod_lt x.magnitude (Nat.two_pow_pos p.fractionBits)
  rw [significand_eq]
  split_ifs with h
  · have := (Nat.div_eq_zero_iff_lt (Nat.two_pow_pos p.fractionBits)).1 h
    omega
  · omega

theorem le_significand {x : Binary p} (h : 0 < x.binades) :
    2 ^ p.fractionBits ≤ x.significand := by
  rw [significand_eq, if_neg (by unfold binades at h; omega)]
  exact Nat.le_add_left _ _

theorem binades_mono {x y : Binary p} (h : x.magnitude ≤ y.magnitude) : x.binades ≤ y.binades :=
  Nat.sub_le_sub_right (Nat.div_le_div_right h) 1

theorem ratio_snd_pos (x : Binary p) : 0 < x.ratio.2 := scale_snd_pos one_pos _

theorem ratioValue_ratio (x : Binary p) : ratioValue x.ratio =
    x.significand * 2 ^ x.binades * (2 : ℚ) ^ p.unitExponent := by
  rw [ratio, ratioValue_scale, zpow_neg, div_inv_eq_mul, exponent_eq, zpow_add₀ two_ne_zero,
    zpow_natCast, ratioValue, Nat.cast_one, div_one]
  ring

theorem ratio_mono {x y : Binary p} (h : x.magnitude ≤ y.magnitude) :
    x.ratio.1 * y.ratio.2 ≤ y.ratio.1 * x.ratio.2 := by
  rw [← ratioValue_le_iff x.ratio_snd_pos y.ratio_snd_pos, ratioValue_ratio, ratioValue_ratio]
  have hsteps : x.significand * 2 ^ x.binades ≤ y.significand * 2 ^ y.binades := by
    rcases (binades_mono h).eq_or_lt with heq | hlt
    · rw [heq]
      have hx := x.significand_add
      have hy := y.significand_add
      rw [heq] at hx
      exact Nat.mul_le_mul_right _ (by omega)
    · calc x.significand * 2 ^ x.binades
          ≤ 2 * 2 ^ p.fractionBits * 2 ^ x.binades :=
            Nat.mul_le_mul_right _ x.significand_lt.le
        _ = 2 ^ p.fractionBits * 2 ^ (x.binades + 1) := by ring
        _ ≤ y.significand * 2 ^ y.binades :=
            Nat.mul_le_mul (le_significand (by omega)) (Nat.pow_le_pow_right two_pos hlt)
  have hcast : (x.significand * 2 ^ x.binades : ℚ) ≤ y.significand * 2 ^ y.binades := by
    exact_mod_cast hsteps
  exact mul_le_mul_of_nonneg_right hcast (by positivity)

theorem significand_of_isZero {x : Binary p} (h : x.isZero = true) : x.significand = 0 := by
  have hm : x.magnitude = 0 := by simpa [isZero] using h
  have := x.significand_add
  omega

/-! ## Conversion of a number -/

theorem isNaN_eq_false_iff {x : Binary p} : x.isNaN = false ↔ x.magnitude ≤ p.infinity := by
  rw [isNaN, decide_eq_false_iff_not, Nat.not_lt]

theorem isNaN_ofRatio (negative : Bool) (num den : ℕ) :
    (ofRatio p negative num den).isNaN = false :=
  isNaN_eq_false_iff.2 (roundRatio_le p num den)

theorem isNaN_ofInt (n : ℤ) : (ofInt p n).isNaN = false := isNaN_ofRatio _ _ _

theorem isNaN_infinite (negative : Bool) : (infinite p negative).isNaN = false :=
  isNaN_eq_false_iff.2 le_rfl

theorem isNaN_undefined : (undefined p).isNaN = true :=
  decide_eq_true (Nat.lt_add_of_pos_right (Nat.two_pow_pos _))

theorem convert_eq {x : Binary p} (hx : x.isNaN = false) : x.convert r =
    if x.isInfinite then infinite r x.negative
    else ofRatio r x.negative x.ratio.1 x.ratio.2 := by
  rw [convert, hx, if_neg Bool.false_ne_true]

theorem isNaN_convert (x : Binary p) : (x.convert r).isNaN = x.isNaN := by
  cases h : x.isNaN
  · rw [convert_eq h]
    split_ifs
    · exact isNaN_infinite _
    · exact isNaN_ofRatio _ _ _
  · rw [convert, if_pos h, isNaN_undefined]

theorem negative_convert {x : Binary p} (hx : x.isNaN = false) :
    (x.convert r).negative = x.negative := by
  rw [convert_eq hx]
  split_ifs <;> rfl

theorem infinity_pos (p : Precision) : 0 < p.infinity := by cases p <;> decide

theorem isZero_convert {x : Binary p} (h : x.isZero = true) : (x.convert r).isZero = true := by
  have hm : x.magnitude = 0 := beq_iff_eq.1 h
  have hinf : ¬ x.isInfinite = true := by
    rw [isInfinite, hm, beq_iff_eq]
    exact (infinity_pos p).ne
  have hnum : x.ratio.1 = 0 := by
    unfold ratio scale
    split_ifs
    · exact significand_of_isZero h
    · rw [significand_of_isZero h, Nat.zero_mul]
  rw [convert_eq (isNaN_eq_false_iff.2 (hm.trans_le (Nat.zero_le _))), if_neg hinf, hnum]
  exact beq_iff_eq.2 (roundRatio_zero r x.ratio.2)

theorem magnitude_convert_mono {x y : Binary p} (hx : x.isNaN = false) (hy : y.isNaN = false)
    (h : x.magnitude ≤ y.magnitude) : (x.convert r).magnitude ≤ (y.convert r).magnitude := by
  by_cases hinf : y.isInfinite = true
  · -- nothing defined is greater than infinity
    rw [convert_eq hy, if_pos hinf]
    exact isNaN_eq_false_iff.1 ((isNaN_convert x).trans hx)
  · have hinf' : ¬ x.isInfinite = true := by
      have := isNaN_eq_false_iff.1 hy
      rw [isInfinite, beq_iff_eq] at hinf ⊢
      omega
    rw [convert_eq hx, convert_eq hy, if_neg hinf, if_neg hinf']
    exact roundRatio_mono r x.ratio_snd_pos y.ratio_snd_pos (ratio_mono h)

/-! ## The order of keys -/

section Keys

variable {x y : Binary p} {x' y' : Binary r}

/-- Signs and the order of magnitudes determine the order of keys, if zero stays zero. -/
theorem key_le_key (hx : x'.negative = x.negative) (hy : y'.negative = y.negative)
    (hx₀ : x.isZero = true → x'.isZero = true) (hy₀ : y.isZero = true → y'.isZero = true)
    (hle : x.magnitude ≤ y.magnitude → x'.magnitude ≤ y'.magnitude)
    (hge : y.magnitude ≤ x.magnitude → y'.magnitude ≤ x'.magnitude)
    (h : x.key ≤ y.key) : x'.key ≤ y'.key := by
  simp only [isZero, beq_iff_eq] at hx₀ hy₀
  unfold key at h ⊢
  rw [hx, hy]
  split_ifs at h ⊢
  · have := hge (by omega)
    omega
  · omega
  · -- a positive key is no greater than a negative one: both are zero
    have := hx₀ (by omega)
    have := hy₀ (by omega)
    omega
  · have := hle (by omega)
    omega

theorem compare_eq (hx : x.isNaN = false) (hy : y.isNaN = false) :
    x.compare y = some (Ord.compare x.key y.key) := by
  rw [compare, hx, hy, Bool.or_self, if_neg Bool.false_ne_true]

theorem convert_mono (hx : x.isNaN = false) (hy : y.isNaN = false) (h : x.key ≤ y.key) :
    (x.convert r).key ≤ (y.convert r).key :=
  key_le_key (negative_convert hx) (negative_convert hy) isZero_convert isZero_convert
    (magnitude_convert_mono hx hy) (magnitude_convert_mono hy hx) h

theorem ofInt_mono {m n : ℤ} (h : m ≤ n) : (ofInt p m).key ≤ (ofInt p n).key := by
  have hround : ∀ {i j : ℕ}, i ≤ j → roundRatio p i 1 ≤ roundRatio p j 1 := fun hij =>
    roundRatio_mono p one_pos one_pos (Nat.mul_le_mul_right 1 hij)
  unfold key ofInt ofRatio
  simp only [decide_eq_true_eq]
  split_ifs with hm hn hn
  · have := hround (show n.natAbs ≤ m.natAbs by omega)
    omega
  · omega
  · omega
  · have := hround (show m.natAbs ≤ n.natAbs by omega)
    omega

end Keys

end RecordQuery.Binary
