import Mathlib.Data.List.Induction
import RecordQuery.Coercion

/-!
# Written integers

Digits are read as the number whose decimal form they are, with any number of zeros in front
(`readDigits_eq_some_iff`), and a text as the integer that it denotes as such a row after at most
one sign (`readInteger_eq_some_iff`). So an integer denotes itself as it is written
(`denotes_toString`), and a count is read back as an integer of a width if the width holds it
(`Sized.read_toString`).
-/

namespace RecordQuery

namespace Literal

/-! ## Values of digits -/

theorem digitsValue_toDigits (n : Nat) : digitsValue (Nat.toDigits 10 n) = n := by
  have hvalue : digitsValue (Nat.toDigits 10 n) = Nat.ofDigitChars 10 (Nat.toDigits 10 n) 0 :=
    Nat.ofDigitChars_eq_foldl.symm
  rw [hvalue, Nat.ofDigitChars_ten_toDigits]

theorem digitsValue_zeros_append (k : Nat) (cs : List Char) :
    digitsValue (List.replicate k '0' ++ cs) = digitsValue cs := by
  induction k with
  | zero => rfl
  | succ k ih => exact ih

theorem digitsValue_snoc (ds : List Char) (c : Char) :
    digitsValue (ds ++ [c]) = 10 * digitsValue ds + (c.toNat - 48) :=
  List.foldl_append ..

theorem digitChar_of_isDigit {c : Char} (hc : c.isDigit = true) :
    ∃ d < 10, c.toNat - 48 = d ∧ c = d.digitChar := by
  have hrange : 48 ≤ c.toNat ∧ c.toNat ≤ 57 := Char.isDigit_iff_toNat.1 hc
  have hd : c.toNat - 48 < 10 := by omega
  refine ⟨c.toNat - 48, hd, rfl, Char.toNat_inj.1 ?_⟩
  rw [Nat.toNat_digitChar_of_lt_ten hd, Nat.add_sub_cancel' hrange.1]

/-! ## Rows of digits -/

/-- The digits are the decimal form of the number, with any number of zeros in front. -/
def IsNumeral (ds : List Char) (m : Nat) : Prop :=
  ∃ zeros, ds = List.replicate zeros '0' ++ Nat.toDigits 10 m

variable {ds : List Char} {m : Nat}

theorem IsNumeral.ne_nil (h : IsNumeral ds m) : ds ≠ [] := by
  obtain ⟨zeros, rfl⟩ := h
  exact List.append_ne_nil_of_right_ne_nil _ Nat.toDigits_ne_nil

theorem IsNumeral.isDigit (h : IsNumeral ds m) {c : Char} (hc : c ∈ ds) : c.isDigit = true := by
  obtain ⟨zeros, rfl⟩ := h
  rcases List.mem_append.1 hc with hc | hc
  · rw [List.eq_of_mem_replicate hc]
    rfl
  · exact Nat.isDigit_of_mem_toDigits (by decide) (by decide) hc

theorem IsNumeral.digitsValue_eq (h : IsNumeral ds m) : digitsValue ds = m := by
  obtain ⟨zeros, rfl⟩ := h
  rw [digitsValue_zeros_append, digitsValue_toDigits]

theorem isNumeral_toDigits (m : Nat) : IsNumeral (Nat.toDigits 10 m) m := ⟨0, rfl⟩

theorem isNumeral_digit {d : Nat} (hd : d < 10) : IsNumeral [d.digitChar] d :=
  ⟨0, (Nat.toDigits_of_lt_base hd).symm⟩

theorem IsNumeral.snoc (h : IsNumeral ds m) {d : Nat} (hd : d < 10) :
    IsNumeral (ds ++ [d.digitChar]) (10 * m + d) := by
  obtain ⟨zeros, rfl⟩ := h
  rcases Nat.eq_zero_or_pos m with rfl | hm
  · -- the digit zero of the number becomes one more zero in front
    refine ⟨zeros + 1, ?_⟩
    rw [Nat.mul_zero, Nat.zero_add, Nat.toDigits_of_lt_base hd, List.replicate_succ']
    rfl
  · refine ⟨zeros, ?_⟩
    rw [← Nat.toDigits_append_toDigits (by decide) hm hd, Nat.toDigits_of_lt_base hd,
      List.append_assoc]

/-- Every row of digits is a numeral. One more digit at its end is one more digit of the number, or
the only one after nothing but zeros. -/
theorem isNumeral_digitsValue (hne : ds ≠ []) (hds : ∀ c ∈ ds, c.isDigit = true) :
    IsNumeral ds (digitsValue ds) := by
  induction ds using List.reverseRecOn with
  | nil => exact absurd rfl hne
  | append_singleton ds c ih =>
      obtain ⟨hinit, hlast⟩ := List.forall_mem_append.1 hds
      obtain ⟨d, hd, hvalue, rfl⟩ := digitChar_of_isDigit (hlast c (List.mem_singleton_self c))
      rw [digitsValue_snoc, hvalue]
      by_cases hnil : ds = []
      · subst hnil
        have hzero : 10 * digitsValue [] + d = d := Nat.zero_add d
        rw [hzero]
        exact isNumeral_digit hd
      · exact (ih hnil hinit).snoc hd

theorem readDigits_eq_some_iff : readDigits ds = some m ↔ IsNumeral ds m := by
  have hread : readDigits ds = some m ↔
      (ds ≠ [] ∧ ∀ c ∈ ds, c.isDigit = true) ∧ digitsValue ds = m := by
    simp [readDigits, List.all_eq_true]
  rw [hread]
  constructor
  · rintro ⟨⟨hne, hds⟩, rfl⟩
    exact isNumeral_digitsValue hne hds
  · exact fun h => ⟨⟨h.ne_nil, fun _ => h.isDigit⟩, h.digitsValue_eq⟩

/-! ## Signs -/

/-- The text denotes the integer: a row of digits, alone or after a plus sign, or, among signed
integers, after a minus sign. -/
inductive Denotes (signed : Bool) : List Char → Int → Prop
  | bare {ds : List Char} {m : Nat} : IsNumeral ds m → Denotes signed ds m
  | plus {ds : List Char} {m : Nat} : IsNumeral ds m → Denotes signed ('+' :: ds) m
  | minus {ds : List Char} {m : Nat} :
      signed = true → IsNumeral ds m → Denotes signed ('-' :: ds) (-m)

theorem readInteger_of_all_isDigit (signed : Bool) {cs : List Char}
    (h : cs.all Char.isDigit = true) :
    readInteger signed cs = (readDigits cs).map fun n => (n : Int) := by
  unfold readInteger
  split
  · exact absurd h (by simp)
  · exact absurd h (by simp)
  · rfl

theorem map_cast_eq_some_iff {o : Option Nat} {f : Int → Int} {n : Int} :
    (o >>= fun m => pure (m : Int)).map f = some n ↔ ∃ m, o = some m ∧ f m = n := by
  cases o <;> simp

theorem readInteger_eq_some_iff {signed : Bool} {cs : List Char} {n : Int} :
    readInteger signed cs = some n ↔ Denotes signed cs n := by
  constructor
  · intro h
    unfold readInteger at h
    split at h
    · obtain ⟨m, hm, rfl⟩ := map_cast_eq_some_iff.1 h
      exact .plus (readDigits_eq_some_iff.1 hm)
    · split at h
      · rename_i hsigned
        obtain ⟨m, hm, rfl⟩ := map_cast_eq_some_iff.1 h
        exact .minus hsigned (readDigits_eq_some_iff.1 hm)
      · cases h
    · obtain ⟨m, hm, rfl⟩ := map_cast_eq_some_iff.1 h
      exact .bare (readDigits_eq_some_iff.1 hm)
  · rintro (h | h | ⟨rfl, h⟩)
    · rw [readInteger_of_all_isDigit signed (List.all_eq_true.2 fun _ => h.isDigit)]
      exact map_cast_eq_some_iff.2 ⟨_, readDigits_eq_some_iff.2 h, rfl⟩
    · exact map_cast_eq_some_iff.2 ⟨_, readDigits_eq_some_iff.2 h, rfl⟩
    · exact map_cast_eq_some_iff.2 ⟨_, readDigits_eq_some_iff.2 h, rfl⟩

theorem denotes_toString {signed : Bool} {n : Int} (h : 0 ≤ n ∨ signed = true) :
    Denotes signed (toString n).toList n := by
  rw [Int.toString_eq_repr, Int.repr_eq_if]
  split
  · rename_i hn
    rw [Nat.repr_eq_ofList_toDigits, String.toList_ofList]
    have hbare : Denotes signed (Nat.toDigits 10 n.toNat) n.toNat := .bare (isNumeral_toDigits _)
    rwa [Int.toNat_of_nonneg hn] at hbare
  · rename_i hn
    rw [Nat.repr_eq_ofList_toDigits, String.toList_append, String.toList_ofList,
      String.toList_ofList]
    have hminus := Denotes.minus (h.resolve_left hn) (isNumeral_toDigits (-n).toNat)
    rwa [Int.toNat_of_nonneg (by omega), Int.neg_neg] at hminus

end Literal

theorem Sized.read_toString (w : Width) (n : Nat) : Sized.read w (toString n) =
    if h : w.Holds n then some ⟨w, n, h⟩ else none := by
  have hread : Literal.readInteger w.isSigned (toString n).toList = some (n : Int) := by
    rw [Nat.toString_eq_ofList_toDigits, String.toList_ofList, Literal.readInteger_eq_some_iff]
    exact .bare (Literal.isNumeral_toDigits n)
  rw [Sized.read, hread]
  rfl

end RecordQuery
