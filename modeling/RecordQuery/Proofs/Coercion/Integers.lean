import Mathlib.Algebra.Group.Nat.Defs
import RecordQuery.Proofs.Coercion
import RecordQuery.Proofs.Literal

/-!
# Text as integers

A width holds what a narrower one of the same signedness holds (`Width.Holds.widen`). Text is read
for an integer kind exactly when it denotes an integer that the width holds
(`coerce_integer_eq_ok_iff`), under any optional and sequence layers; so written integers read back,
and a wider width reads what a narrower one does (`coerce_integer`).
-/

namespace RecordQuery

open Literal

/-! ## Widths -/

namespace Width

variable {w w' : Width} {n : Int}

theorem holds_signed_iff (hsigned : w.isSigned = true) :
    w.Holds n ↔ -((2 ^ (w.bits - 1) : ℕ) : ℤ) ≤ n ∧ n ≤ ((2 ^ (w.bits - 1) : ℕ) : ℤ) - 1 := by
  rw [Holds, least, greatest, if_pos hsigned, if_pos hsigned, Nat.pow_eq]

theorem holds_unsigned_iff (hunsigned : w.isSigned = false) :
    w.Holds n ↔ 0 ≤ n ∧ n ≤ ((2 ^ w.bits : ℕ) : ℤ) - 1 := by
  simp only [Holds, least, greatest, hunsigned, Bool.false_eq_true, if_false, Nat.pow_eq]

theorem Holds.widen (h : w.Holds n) (hsame : w'.isSigned = w.isSigned) (hbits : w.bits ≤ w'.bits) :
    w'.Holds n := by
  cases hsigned : w.isSigned with
  | true =>
      have hpow : 2 ^ (w.bits - 1) ≤ 2 ^ (w'.bits - 1) :=
        Nat.pow_le_pow_right (by decide) (by omega)
      rw [holds_signed_iff hsigned] at h
      rw [holds_signed_iff (hsame.trans hsigned)]
      omega
  | false =>
      have hpow : 2 ^ w.bits ≤ 2 ^ w'.bits := Nat.pow_le_pow_right (by decide) hbits
      rw [holds_unsigned_iff hsigned] at h
      rw [holds_unsigned_iff (hsame.trans hsigned)]
      omega

theorem Holds.nonneg_or_isSigned (h : w.Holds n) : 0 ≤ n ∨ w.isSigned = true := by
  cases hsigned : w.isSigned with
  | true => exact .inr rfl
  | false => exact .inl ((holds_unsigned_iff hsigned).1 h).1

end Width

theorem Sized.read_eq_some_iff {w : Width} {s : String} {k : Sized} : Sized.read w s = some k ↔
    ∃ n, ∃ h : w.Holds n, Denotes w.isSigned s.toList n ∧ k = ⟨w, n, h⟩ := by
  unfold Sized.read
  simp only [Option.bind_eq_some_iff, readInteger_eq_some_iff]
  constructor
  · rintro ⟨n, hn, hk⟩
    split at hk
    · rename_i h
      exact ⟨n, h, hn, (Option.some.inj hk).symm⟩
    · cases hk
  · rintro ⟨n, h, hn, rfl⟩
    exact ⟨n, hn, dif_pos h⟩

/-! ## Integer kinds -/

/-- The second kind is the first one under any optional and sequence layers. -/
inductive Kind.Layers (base : Kind) : Kind → Prop
  | none : Layers base base
  | sequence {k : Kind} : Layers base k → Layers base (.sequence k)
  | optional {k : Kind} : Layers base k → Layers base (.optional k)

theorem Kind.Layers.element_eq {base k : Kind} (h : base.Layers k) : k.element = base.element := by
  induction h with
  | none => rfl
  | sequence _ ih => exact ih
  | optional _ ih => exact ih

theorem coerce_eq_error {raw : String} {k : Kind} (h : ∀ o, coerce raw k ≠ .ok o) :
    coerce raw k = .error ⟨raw, k.element.display⟩ := by
  unfold coerce at h ⊢
  cases hread : coerceElement raw k.element with
  | none => rfl
  | some o => exact absurd (by rw [hread]) (h o)

section Integers

variable {w : Width} {kind : Kind} {raw : String}

theorem coerce_integer_eq_ok_iff (hkind : (Kind.integer w).Layers kind) {o : Operand} :
    coerce raw kind = .ok o ↔
      ∃ n, ∃ h : w.Holds n, Denotes w.isSigned raw.toList n ∧ o = .number (.integer ⟨w, n, h⟩) := by
  have hread : coerceElement raw kind.element =
      (Sized.read w raw).map fun n => .number (.integer n) := by
    rw [hkind.element_eq]
    rfl
  rw [coerce_eq_ok_iff, hread, Option.map_eq_some_iff]
  simp only [Sized.read_eq_some_iff]
  constructor
  · rintro ⟨_, ⟨n, h, hn, rfl⟩, rfl⟩
    exact ⟨n, h, hn, rfl⟩
  · rintro ⟨n, h, hn, rfl⟩
    exact ⟨_, ⟨n, h, hn, rfl⟩, rfl⟩

/-- Text is read for an integer kind, under any optional and sequence layers, exactly when it
denotes an integer that the width holds: digits after at most one sign, with any number of zeros in
front. Every other text is an error with the text and the name of the width. So each integer of the
width reads back as it is written, and a width of the same signedness that is no narrower reads the
same integer. -/
theorem coerce_integer (hkind : (Kind.integer w).Layers kind) (raw : String) :
    (∀ o, coerce raw kind = .ok o ↔ ∃ n, ∃ h : w.Holds n,
      Denotes w.isSigned raw.toList n ∧ o = .number (.integer ⟨w, n, h⟩)) ∧
    ((∀ n, w.Holds n → ¬ Denotes w.isSigned raw.toList n) →
      coerce raw kind = .error ⟨raw, w.name⟩) ∧
    (∀ n (h : w.Holds n), coerce (Number.integer ⟨w, n, h⟩).display kind =
      .ok (.number (.integer ⟨w, n, h⟩))) ∧
    (∀ n (h : w.Holds n), coerce raw kind = .ok (.number (.integer ⟨w, n, h⟩)) →
      ∀ {w' : Width} {kind' : Kind}, (Kind.integer w').Layers kind' →
        w'.isSigned = w.isSigned → w.bits ≤ w'.bits →
        ∃ h' : w'.Holds n, coerce raw kind' = .ok (.number (.integer ⟨w', n, h'⟩))) := by
  refine ⟨fun o => coerce_integer_eq_ok_iff hkind, fun hnone => ?_, fun n h => ?_, ?_⟩
  · rw [coerce_eq_error fun o ho => ?_, hkind.element_eq]
    · rfl
    · obtain ⟨n, h, hn, -⟩ := (coerce_integer_eq_ok_iff hkind).1 ho
      exact hnone n h hn
  · exact (coerce_integer_eq_ok_iff hkind).2 ⟨n, h, denotes_toString h.nonneg_or_isSigned, rfl⟩
  · intro n h hread w' kind' hkind' hsigned hbits
    obtain ⟨m, hm, hdenotes, heq⟩ := (coerce_integer_eq_ok_iff hkind).1 hread
    cases heq
    have hwide := h.widen hsigned hbits
    exact ⟨hwide, (coerce_integer_eq_ok_iff hkind').2 ⟨n, hwide, hsigned ▸ hdenotes, rfl⟩⟩

/-- The least byte with zeros in front, the integer after the greatest byte, and a minus sign
without signed integers. -/
theorem coerce_integer_bytes :
    let kind : Kind := .optional (.sequence (.integer .i8))
    let wide : Kind := .sequence (.optional (.integer .i16))
    (Kind.integer .i8).Layers kind ∧ (Kind.integer .i16).Layers wide ∧
      coerce "-00128" kind = .ok (.number (.integer ⟨.i8, -128, by decide⟩)) ∧
      coerce "-00128" wide = .ok (.number (.integer ⟨.i16, -128, by decide⟩)) ∧
      coerce "+128" kind = .error ⟨"+128", "i8"⟩ ∧
      coerce "-0" (.integer .u8) = .error ⟨"-0", "u8"⟩ ∧
      coerce (toString (-128 : Int)) kind = .ok (.number (.integer ⟨.i8, -128, by decide⟩)) := by
  intro kind wide
  have hkind : (Kind.integer .i8).Layers kind := .optional (.sequence .none)
  have hwide : (Kind.integer .i16).Layers wide := .sequence (.optional .none)
  have hleast : coerce "-00128" kind = .ok (.number (.integer ⟨.i8, -128, by decide⟩)) :=
    ((coerce_integer hkind "-00128").1 _).2 ⟨-128, by decide, readInteger_eq_some_iff.1 rfl, rfl⟩
  obtain ⟨h, hread⟩ := (coerce_integer hkind "-00128").2.2.2 _ _ hleast hwide rfl (by decide)
  refine ⟨hkind, hwide, hleast, hread, (coerce_integer hkind "+128").2.1 fun n h hn => ?_,
    (coerce_integer .none "-0").2.1 fun n _ hn => ?_, (coerce_integer hkind "").2.2.1 (-128) _⟩
  · obtain rfl : 128 = n := Option.some.inj (readInteger_eq_some_iff.2 hn)
    exact absurd h (by decide)
  · cases readInteger_eq_some_iff.2 hn

end Integers

end RecordQuery
